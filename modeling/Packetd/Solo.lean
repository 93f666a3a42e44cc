import Packetd.Interleaving
import Packetd.Refinement
import Packetd.Daemon

/-! One thread of `Interleaving` running alone can do what the sequential `nfqueueCallback` does.
When handlers only return their results, the thread's moves, with its releases in the order the
tiers make them, leave the shared state as the sequential callback leaves it, up to what no step
of a thread reads: the conntrack table, and the session fields other than the subscriptions, the
conntrack id and the client-side tuple. Threads that run one after another, each alone, so reach
what `deliverAll` reaches: the sequential model is the serial runs of the threads. -/

namespace Packetd

/-- What the steps of `Interleaving` read of a session object. -/
def Session.shared (session : Session) : SubscriptionTable × UInt32 × Tuple :=
  (session.subscriptions, session.conntrackID, session.clientSideTuple)

structure Agrees (sys sys' : System) : Prop where
  sessionTable : sys'.sessionTable = sys.sessionTable
  nextSessionID : sys'.nextSessionID = sys.nextSessionID
  sessions : ∀ id, (sys'.sessions id).map Session.shared = (sys.sessions id).map Session.shared
  dict : sys'.dict = sys.dict

theorem Agrees.refl (sys : System) : Agrees sys sys := ⟨rfl, rfl, fun _ => rfl, rfl⟩

theorem Agrees.symm {sys sys' : System} (agrees : Agrees sys sys') : Agrees sys' sys :=
  ⟨agrees.sessionTable.symm, agrees.nextSessionID.symm, fun id => (agrees.sessions id).symm,
    agrees.dict.symm⟩

theorem Agrees.trans {first second third : System} (one : Agrees first second)
    (two : Agrees second third) : Agrees first third :=
  ⟨two.sessionTable.trans one.sessionTable, two.nextSessionID.trans one.nextSessionID,
    fun id => (two.sessions id).trans (one.sessions id), two.dict.trans one.dict⟩

theorem Agrees.stored {sys sys' : System} (agrees : Agrees sys sys') {sid : Nat}
    {session : Session} (stored : sys.sessions sid = some session) :
    ∃ session', sys'.sessions sid = some session' ∧ session'.shared = session.shared := by
  have same := agrees.sessions sid
  rw [stored, Option.map_some'] at same
  exact Option.map_eq_some'.1 same

theorem Agrees.findSession {sys sys' : System} (agrees : Agrees sys sys') (ctid : UInt32) :
    (sys'.findSession ctid).map (fun found => (found.1, found.2.shared)) =
      (sys.findSession ctid).map fun found => (found.1, found.2.shared) := by
  simp only [System.findSession, agrees.sessionTable]
  cases sys.sessionTable ctid with
  | none => rfl
  | some sid =>
      simpa only [Option.some_bind, Option.map_map] using
        congrArg (Option.map (Prod.mk sid)) (agrees.sessions sid)

/-! The operations both models make keep the agreement; those only the sequential model makes
change nothing a thread reads. -/

theorem agrees_addSessionEntry {sys sys' : System} (agrees : Agrees sys sys')
    (write : DictWrite) : Agrees (sys.addSessionEntry write) (sys'.addSessionEntry write) :=
  ⟨agrees.sessionTable, agrees.nextSessionID, agrees.sessions, by
    simp only [System.addSessionEntry, agrees.dict]⟩

theorem agrees_removeFromSessionTable {sys sys' : System} (agrees : Agrees sys sys')
    {session session' : Session} (same : session'.shared = session.shared) :
    Agrees (sys.removeFromSessionTable session) (sys'.removeFromSessionTable session') := by
  have conntrack : session'.conntrackID = session.conntrackID := congrArg (·.2.1) same
  exact ⟨by simp only [System.removeFromSessionTable, agrees.sessionTable, conntrack],
    agrees.nextSessionID, agrees.sessions, agrees.dict⟩

theorem agrees_createSession {sys sys' : System} (agrees : Agrees sys sys') (plugins : Plugins)
    (now : Nat) (mess : NfqueueMessage) (ctid : UInt32) :
    (createSession plugins now mess ctid sys').1 = (createSession plugins now mess ctid sys).1 ∧
      (createSession plugins now mess ctid sys').2.1 =
        (createSession plugins now mess ctid sys).2.1 ∧
      Agrees (createSession plugins now mess ctid sys).2.2
        (createSession plugins now mess ctid sys').2.2 := by
  refine ⟨agrees.nextSessionID, by simp only [createSession, agrees.nextSessionID], ?_, ?_, ?_,
    agrees.dict⟩
  · simp only [createSession, System.insertSession, agrees.sessionTable, agrees.nextSessionID]
  · simp only [createSession, System.insertSession, agrees.nextSessionID]
  · intro id
    simp only [createSession, System.insertSession, agrees.nextSessionID, Function.update_apply]
    split
    · rfl
    · exact agrees.sessions id

theorem releaseSession_shared {session session' : Session} (same : session'.shared = session.shared)
    (owner : String) :
    (releaseSession session' owner).1.shared = (releaseSession session owner).1.shared ∧
      (releaseSession session' owner).2 = (releaseSession session owner).2 := by
  simp only [Session.shared, Prod.mk.injEq] at same
  obtain ⟨subscriptions, conntrack, tuple⟩ := same
  simp only [releaseSession_fst, releaseSession_snd, Session.shared, subscriptions, conntrack,
    tuple, and_self]

theorem agrees_releaseSession {sys sys' : System} (agrees : Agrees sys sys') (sid : Nat)
    (owner : String) : Agrees (sys.releaseSession sid owner) (sys'.releaseSession sid owner) := by
  have frame := releaseSession_frame sys sid owner
  have frame' := releaseSession_frame sys' sid owner
  cases stored : sys.sessions sid with
  | none =>
      have missing : sys'.sessions sid = none := by
        simpa [stored] using agrees.sessions sid
      simpa [System.releaseSession, stored, missing] using agrees
  | some session =>
      obtain ⟨session', stored', same⟩ := agrees.stored stored
      obtain ⟨kept, written⟩ := releaseSession_shared same owner
      refine ⟨by rw [frame.sessionTable, frame'.sessionTable, agrees.sessionTable],
        by rw [frame.nextSessionID, frame'.nextSessionID, agrees.nextSessionID], fun id => ?_,
        by simp only [System.releaseSession, stored, stored', agrees.dict, written]⟩
      rw [System.releaseSession_sessions, System.releaseSession_sessions]
      split
      · simp only [stored, stored', Option.map_some', kept]
      · exact agrees.sessions id

theorem agrees_releaseEach {sys sys' : System} (agrees : Agrees sys sys') (sid : Nat)
    (owners : List String) : Agrees (releaseEach sid sys owners) (releaseEach sid sys' owners) := by
  induction owners generalizing sys sys' with
  | nil => exact agrees
  | cons owner owners ih => exact ih (agrees_releaseSession agrees sid owner)

theorem agrees_removeConntrack (sys : System) (ctid : UInt32) :
    Agrees sys (sys.removeConntrack ctid) :=
  ⟨rfl, rfl, fun _ => rfl, rfl⟩

theorem agrees_modifySession {sys : System} {sid : Nat} {session updated : Session}
    (stored : sys.sessions sid = some session) (same : updated.shared = session.shared) :
    Agrees sys (sys.modifySession sid fun _ => updated) := by
  refine ⟨rfl, rfl, fun id => ?_, rfl⟩
  simp only [System.modifySession]
  split
  · next here => simp only [here, stored, Option.map_some', same]
  · rfl

theorem updateSession_shared (now : Nat) (pmark : UInt32) (newSession : Bool)
    (mess : NfqueueMessage) (session : Session) :
    (updateSession now pmark newSession mess session).1.shared = session.shared := by
  simp only [updateSession, Session.shared]
  split <;> split <;> rfl

/-! ### One thread alone -/

def WorldMove.thread : WorldMove → Nat
  | .next thread | .release thread _ | .finish thread => thread

def resolvedPc (ctid : UInt32) : Resolved → ThreadPc
  | .midSession => .done
  | .found sid _ _ => .mirroring ctid sid

section Solo

variable (plugins : Plugins) (now : Nat)

theorem runWorld_append (world : World) (first second : List WorldMove) :
    runWorld plugins now world (first ++ second) =
      (runWorld plugins now world first).bind fun world' => runWorld plugins now world' second := by
  induction first generalizing world with
  | nil => rfl
  | cons move first ih =>
      simp only [List.cons_append, runWorld]
      cases worldStep plugins now world move with
      | none => rfl
      | some next => exact ih next.1

theorem runWorld_releases {world : World} {thread : Nat} {ctid : UInt32} {sid : Nat}
    (calling : world.threads thread = .calling ctid sid) (owners : List String)
    (stored : world.sys.sessions sid ≠ none) :
    runWorld plugins now world (owners.map (.release thread)) =
      some { world with sys := releaseEach sid world.sys owners } := by
  induction owners generalizing world with
  | nil => rfl
  | cons owner owners ih =>
      obtain ⟨session, found⟩ := Option.ne_none_iff_exists'.1 stored
      have kept : (world.sys.releaseSession sid owner).sessions sid ≠ none := by
        simp [System.releaseSession_sessions, found]
      simp only [List.map_cons, runWorld, worldStep, calling, found, Option.map_some',
        Option.some_bind]
      exact ih calling kept

theorem solo_resolve (ctid : UInt32) (newSession : Bool) (mess : NfqueueMessage)
    {sys : System} {world : World} {thread : Nat}
    (starting : world.threads thread = .start ctid newSession mess)
    (agrees : Agrees sys world.sys) :
    ∃ moves world', runWorld plugins now world moves = some world' ∧
      (∀ move ∈ moves, move.thread = thread) ∧
      world'.threads = Function.update world.threads thread
        (resolvedPc ctid (resolveSession plugins now ctid mess newSession sys).1) ∧
      Agrees (resolveSession plugins now ctid mess newSession sys).2 world'.sys := by
  have lookup := agrees.findSession ctid
  cases found : sys.findSession ctid with
  | none =>
      have missing : world.sys.findSession ctid = none := by
        simpa [found] using lookup
      cases newSession with
      | false =>
          have run : runWorld plugins now world [.next thread, .next thread] =
              some ⟨world.sys.addSessionEntry (bypassWrite ctid),
                Function.update world.threads thread .done⟩ := by
            simp [runWorld, worldStep, threadNext, starting, missing, Function.update_idem]
          refine ⟨_, _, run, by simp [WorldMove.thread], by simp [resolveSession, found,
            resolvedPc], by simpa [resolveSession, found] using agrees_addSessionEntry agrees _⟩
      | true =>
          obtain ⟨sid, -, created⟩ := agrees_createSession agrees plugins now mess ctid
          have run : runWorld plugins now world [.next thread, .next thread] =
              some ⟨(createSession plugins now mess ctid world.sys).2.2,
                Function.update world.threads thread
                  (.mirroring ctid (createSession plugins now mess ctid world.sys).1)⟩ := by
            simp [runWorld, worldStep, threadNext, starting, missing, Function.update_idem]
          refine ⟨_, _, run, by simp [WorldMove.thread], ?_, by simpa [resolveSession, found]
            using created⟩
          simp [resolveSession, found, resolvedPc, sid]
  | some entry =>
      obtain ⟨sid, session⟩ := entry
      obtain ⟨⟨sid', session'⟩, found', agreeing⟩ := Option.map_eq_some'.1 (lookup.trans (by
        rw [found]; rfl))
      obtain ⟨hsid, same⟩ := Prod.mk.inj agreeing
      dsimp only at hsid same
      subst sid'
      clear agreeing
      have tuple : session'.clientSideTuple = session.clientSideTuple := congrArg (·.2.2) same
      by_cases replacing : newSession = true ∧ mess.msgTuple ≠ session.clientSideTuple
      · obtain ⟨rfl, differs⟩ := replacing
        have stored' := (findSession_eq_some found').2
        obtain ⟨sidEq, -, created⟩ := agrees_createSession
          (agrees_removeFromSessionTable agrees same) plugins now mess ctid
        have run : runWorld plugins now world [.next thread, .next thread, .next thread] =
            some ⟨(createSession plugins now mess ctid
                (world.sys.removeFromSessionTable session')).2.2,
              Function.update world.threads thread (.mirroring ctid (createSession plugins now mess
                ctid (world.sys.removeFromSessionTable session')).1)⟩ := by
          simp [runWorld, worldStep, threadNext, starting, found', tuple, differs, stored',
            Function.update_idem]
        refine ⟨_, _, run, by simp [WorldMove.thread], ?_, by simpa [resolveSession, found,
          differs] using created⟩
        simp [resolveSession, found, differs, resolvedPc, sidEq]
      · have kept : resolveSession plugins now ctid mess newSession sys =
            (.found sid session false, sys) :=
          resolveSession_found plugins now ctid mess newSession found
            (by cases newSession <;> simp_all)
        have run : runWorld plugins now world [.next thread] =
            some ⟨world.sys, Function.update world.threads thread (.mirroring ctid sid)⟩ := by
          simp only [ne_eq] at replacing
          simp [runWorld, worldStep, threadNext, starting, found', tuple, replacing]
        refine ⟨_, _, run, by simp [WorldMove.thread], by rw [kept]; rfl, by
          rw [kept]; exact agrees⟩

theorem solo_process
    (quiet : ∀ owner mess ctid newSession,
      (plugins.handler owner mess ctid newSession).actions = [])
    {ctid pmark : UInt32} {mess : NfqueueMessage} {sid : Nat} {session : Session}
    {newSession : Bool} {sys sys' : System} {verdict : Nat}
    (stored : sys.sessions sid = some session)
    (ran : processSession plugins now ctid pmark mess sid session newSession sys =
      .ok (verdict, sys'))
    {world : World} {thread : Nat} (mirroring : world.threads thread = .mirroring ctid sid)
    (agrees : Agrees sys world.sys) :
    ∃ moves world', runWorld plugins now world moves = some world' ∧
      (∀ move ∈ moves, move.thread = thread) ∧
      world'.threads = Function.update world.threads thread .done ∧ Agrees sys' world'.sys := by
  let updated := updateSession now pmark newSession mess session
  let reconciled := if newSession then sys.removeConntrack ctid else sys
  have reconciledStored : reconciled.sessions sid = some session := by
    simp only [reconciled]
    split <;> exact stored
  have shared : updated.1.shared = session.shared := updateSession_shared _ _ _ _ _
  have agrees₁ : Agrees (reconciled.modifySession sid fun _ => updated.1) world.sys := by
    refine (Agrees.trans ?_ (agrees_modifySession reconciledStored shared)).symm.trans agrees
    simp only [reconciled]
    split
    · exact agrees_removeConntrack sys ctid
    · exact Agrees.refl sys
  obtain ⟨session', stored', same⟩ := agrees.stored stored
  have keys : session'.subscriptions = updated.1.subscriptions :=
    (congrArg Prod.fst same).trans (congrArg Prod.fst shared).symm
  have conntrack : session'.conntrackID = updated.1.conntrackID :=
    (congrArg (·.2.1) same).trans (congrArg (·.2.1) shared).symm
  unfold processSession at ran
  by_cases empty : updated.1.subscriptions.keys = []
  · rw [callSubscribers_released plugins ctid sid _ _ newSession _ empty] at ran
    cases ran
    have run : runWorld plugins now world [.next thread, .next thread] =
        some ⟨world.sys.addSessionEntry (bypassWrite session'.conntrackID),
          Function.update world.threads thread .done⟩ := by
      simp [runWorld, worldStep, threadNext, mirroring, stored', keys, empty,
        Function.update_idem]
    refine ⟨_, _, run, by simp [WorldMove.thread], rfl, ?_⟩
    rw [conntrack]
    exact agrees_addSessionEntry agrees₁ _
  · simp only [callSubscribers, List.length_eq_zero, empty, ↓reduceIte] at ran
    split at ran
    · next normal =>
        cases ran
        rw [foldl_runTier_quiet plugins ctid sid _ newSession (fun owner => quiet owner _ _ _)]
        let owners := (priorityWalk updated.1.subscriptions).tiers.flatten.filter
          (asksRelease plugins ctid
            { mess with session := some updated.1, clientToServer := updated.2 } newSession)
        have calling : runWorld plugins now world [.next thread] =
            some ⟨world.sys, Function.update world.threads thread (.calling ctid sid)⟩ := by
          simp [runWorld, worldStep, threadNext, mirroring, stored', keys, empty]
        have released := @runWorld_releases plugins now
          ⟨world.sys, Function.update world.threads thread (.calling ctid sid)⟩ thread ctid sid
          (Function.update_same _ _ _) owners (by simp [stored'])
        refine ⟨[.next thread] ++ owners.map (.release thread) ++ [.finish thread],
          ⟨releaseEach sid world.sys owners, Function.update world.threads thread .done⟩, ?_, ?_,
          rfl, agrees_releaseEach agrees₁ sid owners⟩
        · rw [runWorld_append, runWorld_append, calling, Option.some_bind, released,
            Option.some_bind]
          simp [runWorld, worldStep, Function.update_idem]
        · simp only [List.mem_append, List.mem_singleton, List.mem_map]
          rintro move ((rfl | ⟨owner, -, rfl⟩) | rfl) <;> rfl
    · cases ran

theorem nfqueueCallback_solo
    (quiet : ∀ owner mess ctid newSession,
      (plugins.handler owner mess ctid newSession).actions = [])
    {ctid family pmark : UInt32} {packet : Packet} {packetLength : Nat} {mess : NfqueueMessage}
    (parsed : parseMessage family packet packetLength pmark = some mess)
    (remote : (mess.msgTuple.clientAddress.isLoopback || mess.msgTuple.serverAddress.isLoopback)
      = false)
    {sys sys' : System} {verdict : Nat}
    (ran : nfqueueCallback plugins now ctid family packet packetLength pmark sys =
      .ok (verdict, sys'))
    {world : World} {thread : Nat}
    (starting : world.threads thread = .start ctid (pmark &&& 0x10000000 != 0) mess)
    (agrees : Agrees sys world.sys) :
    ∃ moves world', runWorld plugins now world moves = some world' ∧
      (∀ move ∈ moves, move.thread = thread) ∧
      world'.threads = Function.update world.threads thread .done ∧ Agrees sys' world'.sys := by
  rw [nfqueueCallback_of_parsed plugins now ctid family packet packetLength pmark sys parsed
    remote] at ran
  obtain ⟨moves, world₁, run₁, own₁, threads₁, agrees₁⟩ :=
    solo_resolve plugins now ctid _ mess starting agrees
  cases resolved : resolveSession plugins now ctid mess (pmark &&& 0x10000000 != 0) sys with
  | mk result reached =>
      rw [resolved] at ran threads₁ agrees₁
      cases result with
      | midSession =>
          cases ran
          exact ⟨moves, world₁, run₁, own₁, threads₁, agrees₁⟩
      | found sid session newSession =>
          have stored : reached.sessions sid = some session := by
            have := resolveSession_stored plugins now ctid mess _ sys (by rw [resolved])
            rwa [resolved] at this
          obtain ⟨moves₂, world₂, run₂, own₂, threads₂, agrees₂⟩ :=
            solo_process plugins now quiet stored ran
              (by rw [threads₁]; exact Function.update_same _ _ _) agrees₁
          refine ⟨moves ++ moves₂, world₂, by rw [runWorld_append, run₁, Option.some_bind, run₂],
            fun move member => ?_, by rw [threads₂, threads₁, Function.update_idem], agrees₂⟩
          rcases List.mem_append.1 member with first | second
          · exact own₁ move first
          · exact own₂ move second

def Ready (world : World) (thread : Nat) (ctid : UInt32) (d : Delivery) : Prop :=
  ∃ mess, parseMessage d.family d.packet d.packetLength d.pmark = some mess ∧
    (mess.msgTuple.clientAddress.isLoopback || mess.msgTuple.serverAddress.isLoopback) = false ∧
    world.threads thread = .start ctid (d.pmark &&& 0x10000000 != 0) mess

/-- Serial runs: the packets of a conntrack id, each given to its own thread, the threads run
one after another, each alone to its end, reach a state that agrees with the one `deliverAll`
reaches. -/
theorem deliverAll_serial
    (quiet : ∀ owner mess ctid newSession,
      (plugins.handler owner mess ctid newSession).actions = [])
    (ctid : UInt32) (ds : List Delivery) (timed : ∀ d ∈ ds, d.now = now) :
    ∀ {sys sys' : System} {world : World} (base : Nat), deliverAll plugins ctid sys ds = .ok sys' →
      (∀ i (h : i < ds.length), Ready world (base + i) ctid ds[i]) → Agrees sys world.sys →
      ∃ moves world', runWorld plugins now world moves = some world' ∧
        world'.threads =
          (fun t => if base ≤ t ∧ t < base + ds.length then .done else world.threads t) ∧
        Agrees sys' world'.sys := by
  induction ds with
  | nil =>
      intro sys sys' world base delivered _ agrees
      cases delivered
      refine ⟨[], world, rfl, funext fun t => ?_, agrees⟩
      rw [if_neg (by simp)]
  | cons d ds ih =>
      intro sys sys' world base delivered ready agrees
      obtain ⟨mess, parsed, remote, starting⟩ := ready 0 (by simp)
      simp only [deliverAll] at delivered
      split at delivered
      · next verdict sys₁ ran =>
          rw [timed d (List.mem_cons_self d ds)] at ran
          obtain ⟨moves₁, world₁, run₁, -, threads₁, agrees₁⟩ :=
            nfqueueCallback_solo plugins now quiet parsed remote ran starting agrees
          have ready₁ : ∀ i (h : i < ds.length), Ready world₁ (base + 1 + i) ctid ds[i] := by
            intro i h
            obtain ⟨mess', parsed', remote', starting'⟩ := ready (i + 1) (by simpa using h)
            refine ⟨mess', parsed', remote', ?_⟩
            rw [threads₁, Function.update_noteq (by omega), show base + 1 + i = base + (i + 1) by
              omega]
            exact starting'
          obtain ⟨moves₂, world₂, run₂, threads₂, agrees₂⟩ :=
            ih (fun d' member => timed d' (List.mem_cons_of_mem d member)) (base + 1) delivered
              ready₁ agrees₁
          refine ⟨moves₁ ++ moves₂, world₂, by rw [runWorld_append, run₁, Option.some_bind, run₂],
            funext fun t => ?_, agrees₂⟩
          simp only [threads₂, threads₁, Function.update_apply, List.length_cons]
          split_ifs <;> first | rfl | omega
      · cases delivered

end Solo

def readyThreads (ctid : UInt32) (ds : List Delivery) (thread : Nat) : ThreadPc :=
  match ds[thread]? with
  | some d =>
      match parseMessage d.family d.packet d.packetLength d.pmark with
      | some mess => .start ctid (d.pmark &&& 0x10000000 != 0) mess
      | none => .done
  | none => .done

def flowDeliveries : List Delivery :=
  [⟨5, 2, firstPacket, 60, 0x10000002⟩, ⟨5, 2, replyPacket, 60, 0x00000003⟩]

/-- The two packets of `flowDeliveries` on threads 0 and 1, run one after the other: both
threads end done, and the shared state agrees with the sequential one, in which ct id 7 maps to
the flow's session. -/
theorem deliverAll_serial_flow :
    ∃ sys' moves world', deliverAll tieredPlugins 7 System.empty flowDeliveries = .ok sys' ∧
      (∃ session, sys'.findSession 7 = some (0, session)) ∧
      runWorld tieredPlugins 5 ⟨System.empty, readyThreads 7 flowDeliveries⟩ moves =
        some world' ∧
      world'.threads = (fun t => if 0 ≤ t ∧ t < 0 + flowDeliveries.length then .done
        else readyThreads 7 flowDeliveries t) ∧
      Agrees sys' world'.sys :=
  have ready : ∀ i (h : i < flowDeliveries.length),
      Ready ⟨System.empty, readyThreads 7 flowDeliveries⟩ (0 + i) 7 flowDeliveries[i]
    | 0, _ => ⟨_, rfl, rfl, rfl⟩
    | 1, _ => ⟨_, rfl, rfl, rfl⟩
    | n + 2, h => absurd h (by simp [flowDeliveries])
  let ⟨moves, world', run, threads, agrees⟩ :=
    @deliverAll_serial tieredPlugins 5 (fun _ _ _ _ => rfl) 7 flowDeliveries (by decide)
      System.empty _ _ 0 rfl ready (Agrees.refl _)
  ⟨_, moves, world', rfl, ⟨_, rfl⟩, run, threads, agrees⟩

end Packetd
