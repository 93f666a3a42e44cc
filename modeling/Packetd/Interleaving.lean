import Packetd.Nfqueue

/-! `nfqueueCallback` invocations running at once on the nfqueue threads. Each session-table,
subscription-set and dictionary operation is one atomic step on the shared `System`, made by the
operation of the sequential model; the `ReleaseSession` calls of an invocation's handlers and of
its join may come at any point while its subscribers run. -/

namespace Packetd

/-- Where one invocation of `nfqueueCallback` is, named by the shared operation it makes next.
The thread holds the session object `sid` it looked up or created. -/
inductive ThreadPc
  /-- The packet is delivered; `findSession(ctid)` comes next. -/
  | start (ctid : UInt32) (newSession : Bool) (mess : NfqueueMessage)
  /-- No session and no new mark: the mid-session `bypass_packetd` write comes next. -/
  | midSession (ctid : UInt32)
  /-- The session `sid` has another tuple: `session.removeFromSessionTable()` comes next. -/
  | replacing (ctid : UInt32) (sid : Nat) (mess : NfqueueMessage)
  /-- `createSession(mess, ctid)` comes next. -/
  | creating (ctid : UInt32) (mess : NfqueueMessage)
  /-- `MirrorNfqueueSubscriptions(session)` comes next. -/
  | mirroring (ctid : UInt32) (sid : Nat)
  /-- The snapshot was empty: `callSubscribers` writes `bypass_packetd` next. -/
  | bypassing (ctid : UInt32) (sid : Nat)
  /-- The subscribers run: each `ReleaseSession(session, owner)` is one step, until the return. -/
  | calling (ctid : UInt32) (sid : Nat)
  | done

def ThreadPc.activeOn : ThreadPc → Option UInt32
  | .start .. | .done => none
  | .midSession ctid | .replacing ctid .. | .creating ctid _ | .mirroring ctid _
  | .bypassing ctid _ | .calling ctid _ => some ctid

structure World where
  sys : System
  threads : Nat → ThreadPc

inductive WorldMove
  /-- The thread makes its next operation. -/
  | next (thread : Nat)
  /-- A handler of the thread's subscribers, or its join, calls `ReleaseSession(session, owner)`. -/
  | release (thread : Nat) (owner : String)
  /-- The thread's `callSubscribers` returns. -/
  | finish (thread : Nat)

section Steps

variable (plugins : Plugins) (now : Nat)

/-- A thread's next operation: its next position, the shared state after it, and the dictionary
writes it makes. -/
def threadNext (sys : System) : ThreadPc → Option (ThreadPc × System × List DictWrite)
  | .start ctid newSession mess =>
      match sys.findSession ctid with
      | none => some (if newSession then .creating ctid mess else .midSession ctid, sys, [])
      | some (sid, session) =>
          some (if newSession ∧ mess.msgTuple ≠ session.clientSideTuple then
              .replacing ctid sid mess
            else .mirroring ctid sid, sys, [])
  | .midSession ctid => some (.done, sys.addSessionEntry (bypassWrite ctid), [bypassWrite ctid])
  | .replacing ctid sid mess =>
      (sys.sessions sid).map fun session =>
        (.creating ctid mess, sys.removeFromSessionTable session, [])
  | .creating ctid mess =>
      let created := createSession plugins now mess ctid sys
      some (.mirroring ctid created.1, created.2.2, [])
  | .mirroring ctid sid =>
      (sys.sessions sid).map fun session =>
        (if session.subscriptions.keys.length = 0 then .bypassing ctid sid else .calling ctid sid,
          sys, [])
  | .bypassing _ sid =>
      (sys.sessions sid).map fun session =>
        (.done, sys.addSessionEntry (bypassWrite session.conntrackID),
          [bypassWrite session.conntrackID])
  | .calling .. | .done => none

/-- One atomic step of the threads, with the dictionary writes it makes. -/
def worldStep (world : World) : WorldMove → Option (World × List DictWrite)
  | .next thread =>
      (threadNext plugins now world.sys (world.threads thread)).map fun (pc, sys, writes) =>
        (⟨sys, Function.update world.threads thread pc⟩, writes)
  | .release thread owner =>
      match world.threads thread with
      | .calling _ sid =>
          (world.sys.sessions sid).map fun session =>
            ({ world with sys := world.sys.releaseSession sid owner },
              (Packetd.releaseSession session owner).2)
      | _ => none
  | .finish thread =>
      match world.threads thread with
      | .calling .. => some (⟨world.sys, Function.update world.threads thread .done⟩, [])
      | _ => none

inductive WorldReachable (allowed : World → WorldMove → Prop) (start : World) : World → Prop
  | init : WorldReachable allowed start start
  | step {world world' : World} {move : WorldMove} {writes : List DictWrite} :
      WorldReachable allowed start world → allowed world move →
        worldStep plugins now world move = some (world', writes) →
          WorldReachable allowed start world'

/-- Invocations for one ctid never overlap: a thread looks its ctid up only when no other thread
is still working on that ctid. -/
def Serialized (world : World) : WorldMove → Prop
  | .next thread => ∀ ctid newSession mess, world.threads thread = .start ctid newSession mess →
      ∀ other, other ≠ thread → (world.threads other).activeOn ≠ some ctid
  | _ => True

/-- No `bypass_packetd` write for a live session: each one a step writes for a ctid finds the
session then mapped to that ctid, if any, with no subscriptions. -/
def BypassSafe (sys : System) (writes : List DictWrite) : Prop :=
  ∀ ctid, bypassWrite ctid ∈ writes → ∀ sid session,
    sys.findSession ctid = some (sid, session) → session.subscriptions.keys = []

def runWorld (world : World) : List WorldMove → Option World
  | [] => some world
  | move :: moves =>
      (worldStep plugins now world move).bind fun (world', _) => runWorld world' moves

theorem reachable_runWorld {allowed : World → WorldMove → Prop} {start : World}
    (everywhere : ∀ world move, allowed world move) :
    ∀ (moves : List WorldMove) (world world' : World),
      WorldReachable plugins now allowed start world →
        runWorld plugins now world moves = some world' →
          WorldReachable plugins now allowed start world'
  | [], _, _, reached, ran => Option.some.inj ran ▸ reached
  | move :: moves, world, world', reached, ran => by
      simp only [runWorld, Option.bind_eq_some] at ran
      obtain ⟨⟨next, writes⟩, stepped, ran⟩ := ran
      exact reachable_runWorld everywhere moves next world'
        (.step reached (everywhere world move) stepped) ran

end Steps

/-! Invocations for one ctid that never overlap never write `bypass_packetd` for a live
session. -/

/-- What a thread's position says about the shared state while invocations for one ctid do not
overlap: the table still maps its ctid as its last operation left it. -/
def ThreadHolds (sys : System) : ThreadPc → Prop
  | .start .. | .done => True
  | .midSession ctid | .creating ctid _ => sys.sessionTable ctid = none
  | .replacing ctid sid _ | .mirroring ctid sid | .calling ctid sid =>
      sys.sessionTable ctid = some sid
  | .bypassing ctid sid =>
      sys.sessionTable ctid = some sid ∧
        ∃ session, sys.sessions sid = some session ∧ session.subscriptions.keys = []

structure SerialInv (world : World) : Prop where
  keyed : WellKeyed world.sys
  exclusive : ∀ thread other ctid, thread ≠ other → (world.threads thread).activeOn = some ctid →
    (world.threads other).activeOn ≠ some ctid
  holds : ∀ thread, ThreadHolds world.sys (world.threads thread)

structure ChangesOnly (ctid : UInt32) (sys sys' : System) : Prop where
  table : ∀ other, other ≠ ctid → sys'.sessionTable other = sys.sessionTable other
  emptied : ∀ sid session, sys.sessions sid = some session → session.subscriptions.keys = [] →
    ∃ session', sys'.sessions sid = some session' ∧ session'.subscriptions.keys = []

theorem ChangesOnly.of_sessions {ctid : UInt32} {sys sys' : System}
    (table : ∀ other, other ≠ ctid → sys'.sessionTable other = sys.sessionTable other)
    (same : sys'.sessions = sys.sessions) : ChangesOnly ctid sys sys' :=
  ⟨table, fun _ session stored empty => ⟨session, same ▸ stored, empty⟩⟩

theorem threadHolds_of_changesOnly {ctid : UInt32} {sys sys' : System} {pc : ThreadPc}
    (changes : ChangesOnly ctid sys sys') (holds : ThreadHolds sys pc)
    (other : pc.activeOn ≠ some ctid) : ThreadHolds sys' pc := by
  cases pc with
  | start | done => trivial
  | midSession c | creating c | replacing c | mirroring c | calling c =>
      simp only [ThreadHolds, ThreadPc.activeOn, ne_eq, Option.some.injEq] at holds other ⊢
      rw [changes.table c other, holds]
  | bypassing c sid =>
      simp only [ThreadHolds, ThreadPc.activeOn, ne_eq, Option.some.injEq] at holds other ⊢
      obtain ⟨mapped, session, stored, empty⟩ := holds
      exact ⟨(changes.table c other).trans mapped, changes.emptied sid session stored empty⟩

theorem exclusive_update {threads : Nat → ThreadPc} {thread : Nat} {pc : ThreadPc}
    (exclusive : ∀ thread other ctid, thread ≠ other → (threads thread).activeOn = some ctid →
      (threads other).activeOn ≠ some ctid)
    (fresh : ∀ ctid, pc.activeOn = some ctid → ∀ other, other ≠ thread →
      (threads other).activeOn ≠ some ctid) :
    ∀ i j ctid, i ≠ j → (Function.update threads thread pc i).activeOn = some ctid →
      (Function.update threads thread pc j).activeOn ≠ some ctid := by
  intro i j ctid ne active
  by_cases first : i = thread
  · subst first
    rw [Function.update_same] at active
    rw [Function.update_noteq (Ne.symm ne)]
    exact fresh ctid active j (Ne.symm ne)
  · rw [Function.update_noteq first] at active
    by_cases second : j = thread
    · subst second
      rw [Function.update_same]
      exact fun active' => fresh ctid active' i first active
    · rw [Function.update_noteq second]
      exact exclusive i j ctid ne active

section Serial

variable (plugins : Plugins) (now : Nat)

theorem threadNext_spec {sys sys' : System} {pc pc' : ThreadPc} {writes : List DictWrite}
    (keyed : WellKeyed sys) (holds : ThreadHolds sys pc)
    (stepped : threadNext plugins now sys pc = some (pc', sys', writes)) :
    (pc'.activeOn = pc.activeOn ∨ pc'.activeOn = none ∨
      ∃ ctid newSession mess, pc = .start ctid newSession mess ∧ pc'.activeOn = some ctid) ∧
    (sys' = sys ∨ ∃ ctid, pc.activeOn = some ctid ∧ ChangesOnly ctid sys sys') ∧
    WellKeyed sys' ∧ ThreadHolds sys' pc' ∧ BypassSafe sys' writes := by
  have nothing : BypassSafe sys' [] := fun _ mem => absurd mem (List.not_mem_nil _)
  cases pc with
  | start ctid newSession mess =>
      simp only [threadNext] at stepped
      cases found : sys.findSession ctid with
      | none =>
          simp only [found, Option.some.injEq, Prod.mk.injEq] at stepped
          obtain ⟨rfl, rfl, rfl⟩ := stepped
          have unmapped := (findSession_eq_none sys ctid keyed).1 found
          refine ⟨.inr (.inr ⟨ctid, newSession, mess, rfl, by split <;> rfl⟩), .inl rfl, keyed,
            by split <;> exact unmapped, nothing⟩
      | some entry =>
          obtain ⟨sid, session⟩ := entry
          simp only [found, Option.some.injEq, Prod.mk.injEq] at stepped
          obtain ⟨rfl, rfl, rfl⟩ := stepped
          have mapped := (findSession_eq_some found).1
          refine ⟨.inr (.inr ⟨ctid, newSession, mess, rfl, by split <;> rfl⟩), .inl rfl, keyed,
            by split <;> exact mapped, nothing⟩
  | midSession ctid =>
      simp only [threadNext, Option.some.injEq, Prod.mk.injEq] at stepped
      obtain ⟨rfl, rfl, rfl⟩ := stepped
      refine ⟨.inr (.inl rfl), .inr ⟨ctid, rfl, .of_sessions (fun _ _ => rfl) rfl⟩, keyed, trivial,
        fun written mem sid session found => ?_⟩
      rw [List.mem_singleton, bypassWrite, bypassWrite, DictWrite.mk.injEq] at mem
      have unmapped : sys.findSession ctid = none := (findSession_eq_none sys ctid keyed).2 holds
      rw [mem.1] at found
      exact absurd (found.symm.trans unmapped) (Option.some_ne_none _)
  | replacing ctid sid mess =>
      simp only [threadNext] at stepped
      cases stored : sys.sessions sid with
      | none => simp [stored] at stepped
      | some session =>
          simp only [stored, Option.map_some', Option.some.injEq, Prod.mk.injEq] at stepped
          obtain ⟨rfl, rfl, rfl⟩ := stepped
          have key := keyed.key holds stored
          have table : ∀ other, (sys.removeFromSessionTable session).sessionTable other =
              if other = ctid then none else sys.sessionTable other := fun other => by
            simp [System.removeFromSessionTable, key, Function.update_apply]
          exact ⟨.inl rfl, .inr ⟨ctid, rfl, .of_sessions (fun other ne => by simp [table, ne]) rfl⟩,
            wellKeyed_removeFromSessionTable keyed session, by simp [ThreadHolds, table], nothing⟩
  | creating ctid mess =>
      simp only [threadNext, Option.some.injEq, Prod.mk.injEq] at stepped
      obtain ⟨rfl, rfl, rfl⟩ := stepped
      have fresh : ∀ sid, sys.sessions sid ≠ none → sid ≠ sys.nextSessionID :=
        fun sid stored same => stored (sys.unallocated sid (le_of_eq same.symm))
      refine ⟨.inl rfl, .inr ⟨ctid, rfl, fun other ne => Function.update_noteq ne _ _,
        fun sid session stored empty => ⟨session, ?_, empty⟩⟩, wellKeyed_insertSession keyed rfl,
        Function.update_same _ _ _, nothing⟩
      simp only [createSession, System.insertSession]
      rw [Function.update_noteq (fresh sid (by simp [stored])), stored]
  | mirroring ctid sid =>
      simp only [threadNext] at stepped
      cases stored : sys.sessions sid with
      | none => simp [stored] at stepped
      | some session =>
          simp only [stored, Option.map_some', Option.some.injEq, Prod.mk.injEq] at stepped
          obtain ⟨rfl, rfl, rfl⟩ := stepped
          refine ⟨.inl (by split <;> rfl), .inl rfl, keyed, ?_, nothing⟩
          split
          · next empty => exact ⟨holds, session, stored, List.length_eq_zero.1 empty⟩
          · exact holds
  | bypassing ctid sid =>
      simp only [threadNext] at stepped
      cases stored : sys.sessions sid with
      | none => simp [stored] at stepped
      | some session =>
          simp only [stored, Option.map_some', Option.some.injEq, Prod.mk.injEq] at stepped
          obtain ⟨rfl, rfl, rfl⟩ := stepped
          obtain ⟨mapped, object, stored', empty⟩ := holds
          cases stored.symm.trans stored'
          have key := keyed.key mapped stored
          refine ⟨.inr (.inl rfl), .inr ⟨ctid, rfl, .of_sessions (fun _ _ => rfl) rfl⟩, keyed,
            trivial, fun written mem sid' session' found => ?_⟩
          rw [List.mem_singleton, bypassWrite, bypassWrite, DictWrite.mk.injEq, key] at mem
          rw [mem.1] at found
          have found' := (findSession_of_mapped mapped stored).symm.trans found
          simp only [Option.some.injEq, Prod.mk.injEq] at found'
          exact found'.2 ▸ empty
  | calling | done => simp [threadNext] at stepped

theorem releaseSession_spec {sys : System} {ctid : UInt32} {sid : Nat} {session : Session}
    (owner : String) (keyed : WellKeyed sys) (mapped : sys.sessionTable ctid = some sid)
    (stored : sys.sessions sid = some session) :
    ChangesOnly ctid sys (sys.releaseSession sid owner) ∧ WellKeyed (sys.releaseSession sid owner) ∧
      (sys.releaseSession sid owner).sessionTable = sys.sessionTable ∧
      BypassSafe (sys.releaseSession sid owner) (Packetd.releaseSession session owner).2 := by
  have table := (releaseSession_frame sys sid owner).sessionTable
  refine ⟨⟨fun other _ => by rw [table], fun sid' session' stored' empty => ?_⟩,
    fun other sid' mapped' => ?_, table, fun written mem sid' session' found => ?_⟩
  · rw [System.releaseSession_sessions]
    split
    · next same =>
        subst same
        exact ⟨_, by rw [stored', Option.map_some'], by rw [releaseSession_keys, empty]; rfl⟩
    · exact ⟨session', stored', empty⟩
  · rw [table] at mapped'
    obtain ⟨object, stored', key⟩ := keyed other sid' mapped'
    rw [System.releaseSession_sessions]
    split
    · next same =>
        subst same
        exact ⟨_, by rw [stored', Option.map_some'], by rw [releaseSession_conntrackID, key]⟩
    · exact ⟨object, stored', key⟩
  · rw [releaseSession_snd] at mem
    split at mem
    · next emptied =>
        rw [List.mem_singleton, bypassWrite, bypassWrite, DictWrite.mk.injEq,
          keyed.key mapped stored] at mem
        rw [mem.1] at found
        obtain ⟨mapped', stored''⟩ := findSession_eq_some found
        rw [table, mapped, Option.some.injEq] at mapped'
        subst mapped'
        rw [System.releaseSession_sessions, if_pos rfl, stored, Option.map_some',
          Option.some.injEq] at stored''
        rw [← stored'', releaseSession_keys]
        exact emptied.2
    · exact absurd mem (List.not_mem_nil _)

theorem serialInv_init {start : World} (keyed : WellKeyed start.sys)
    (idle : ∀ thread, (start.threads thread).activeOn = none) : SerialInv start := by
  refine ⟨keyed, fun thread _ ctid _ active => absurd (active.symm.trans (idle thread))
    (Option.some_ne_none _), fun thread => ?_⟩
  have idle := idle thread
  revert idle
  cases start.threads thread <;> simp [ThreadPc.activeOn, ThreadHolds]

theorem SerialInv.holds_update {world : World} (inv : SerialInv world) {thread : Nat}
    {sys' : System} {pc' : ThreadPc}
    (changed : sys' = world.sys ∨
      ∃ ctid, (world.threads thread).activeOn = some ctid ∧ ChangesOnly ctid world.sys sys')
    (holds : ThreadHolds sys' pc') (other : Nat) :
    ThreadHolds sys' (Function.update world.threads thread pc' other) := by
  by_cases same : other = thread
  · subst same
    rwa [Function.update_same]
  · rw [Function.update_noteq same]
    rcases changed with rfl | ⟨ctid, activeOn, changes⟩
    · exact inv.holds other
    · exact threadHolds_of_changesOnly changes (inv.holds other)
        (inv.exclusive thread other ctid (Ne.symm same) activeOn)

theorem serialInv_step {world world' : World} {move : WorldMove} {writes : List DictWrite}
    (inv : SerialInv world) (serial : Serialized world move)
    (stepped : worldStep plugins now world move = some (world', writes)) :
    SerialInv world' ∧ BypassSafe world'.sys writes := by
  cases move with
  | next thread =>
      simp only [worldStep, Option.map_eq_some'] at stepped
      obtain ⟨⟨pc', sys', writes'⟩, nexted, stepped⟩ := stepped
      simp only [Prod.mk.injEq] at stepped
      obtain ⟨rfl, rfl⟩ := stepped
      obtain ⟨active, changed, keyed, holds, safe⟩ :=
        threadNext_spec plugins now inv.keyed (inv.holds thread) nexted
      have fresh : ∀ ctid, pc'.activeOn = some ctid → ∀ other, other ≠ thread →
          (world.threads other).activeOn ≠ some ctid := by
        intro ctid active' other ne
        rcases active with same | idle | ⟨ctid', newSession, mess, start, started⟩
        · exact inv.exclusive thread other ctid ne.symm (same ▸ active')
        · exact absurd (active'.symm.trans idle) (Option.some_ne_none _)
        · rw [started, Option.some.injEq] at active'
          exact active' ▸ serial ctid' newSession mess start other ne
      exact ⟨⟨keyed, exclusive_update inv.exclusive fresh, inv.holds_update changed holds⟩, safe⟩
  | release thread owner =>
      simp only [worldStep] at stepped
      split at stepped
      · next ctid sid calling =>
          cases stored : world.sys.sessions sid with
          | none => simp [stored] at stepped
          | some session =>
              simp only [stored, Option.map_some', Option.some.injEq, Prod.mk.injEq] at stepped
              obtain ⟨rfl, rfl⟩ := stepped
              have mapped : world.sys.sessionTable ctid = some sid := by
                simpa [calling, ThreadHolds] using inv.holds thread
              obtain ⟨changes, keyed, table, safe⟩ :=
                releaseSession_spec owner inv.keyed mapped stored
              refine ⟨⟨keyed, inv.exclusive, fun other => ?_⟩, safe⟩
              have active : (world.threads thread).activeOn = some ctid := by
                simp [calling, ThreadPc.activeOn]
              have still := inv.holds_update (.inr ⟨ctid, active, changes⟩)
                (show ThreadHolds _ (world.threads thread) by simpa [calling, ThreadHolds, table])
                other
              rwa [Function.update_eq_self] at still
      · cases stepped
  | finish thread =>
      simp only [worldStep] at stepped
      split at stepped
      · simp only [Option.some.injEq, Prod.mk.injEq] at stepped
        obtain ⟨rfl, rfl⟩ := stepped
        exact ⟨⟨inv.keyed, exclusive_update inv.exclusive (fun _ active => nomatch active),
          inv.holds_update (.inl rfl) trivial⟩, fun _ mem => absurd mem (List.not_mem_nil _)⟩
      · cases stepped

theorem reachable_serialInv {start world : World} (init : SerialInv start)
    (reached : WorldReachable plugins now Serialized start world) : SerialInv world := by
  induction reached with
  | init => exact init
  | step _ serial stepped ih => exact (serialInv_step plugins now ih serial stepped).1

/-- When the invocations of `nfqueueCallback` for one ctid never overlap, every
`bypass_packetd` write, in every interleaving of the threads and of the releases, finds the
session then mapped to its ctid, if any, without subscriptions. -/
theorem serialized_bypass_safe (start : World) (keyed : WellKeyed start.sys)
    (idle : ∀ thread, (start.threads thread).activeOn = none) {world world' : World}
    {move : WorldMove} {writes : List DictWrite}
    (reached : WorldReachable plugins now Serialized start world) (serial : Serialized world move)
    (stepped : worldStep plugins now world move = some (world', writes)) :
    BypassSafe world'.sys writes :=
  (serialInv_step plugins now (reachable_serialInv plugins now (serialInv_init keyed idle) reached)
    serial stepped).2

theorem serialized_of_idle {world : World} {thread : Nat}
    (idle : ∀ other, other ≠ thread → (world.threads other).activeOn = none) :
    Serialized world (.next thread) :=
  fun _ _ _ _ other ne active => Option.noConfusion (active.symm.trans (idle other ne))

end Serial

def newFlowMessage (tuple : Tuple) : NfqueueMessage :=
  { session := none, msgTuple := tuple, family := 2, packetMark := 0x10000000, length := 60,
    clientToServer := false, ip4Layer := none, ip6Layer := none, tcpLayer := none,
    udpLayer := none }

def reusedCtid : World :=
  ⟨System.empty, fun thread =>
    if thread = 0 then
      .start 9 true (newFlowMessage ⟨17, .v4 0x0a000005, 40000, .v4 0x5db8d822, 3478⟩)
    else if thread = 1 then
      .start 9 true (newFlowMessage ⟨6, .v4 0x0a000007, 51000, .v4 0x5db8d822, 443⟩)
    else .done⟩

theorem reusedCtid_idle (thread : Nat) : (reusedCtid.threads thread).activeOn = none := by
  simp only [reusedCtid]
  split_ifs <;> rfl

/-- Thread 0 runs alone: it creates session 0 under ct id 9 and starts its subscribers, and its
geoip handler's release writes `bypass_packetd` for ct id 9 while ct id 9 is mapped to session 0,
whose last subscription that release has just removed. -/
theorem serialized_bypass_safe_alone :
    ∃ world world' writes,
      WorldReachable releasingPlugins 0 Serialized reusedCtid world ∧
      worldStep releasingPlugins 0 world (.release 0 "geoip") = some (world', writes) ∧
      bypassWrite 9 ∈ writes ∧ (∃ session, world'.sys.findSession 9 = some (0, session)) ∧
      BypassSafe world'.sys writes := by
  have alone : ∀ threads : Nat → ThreadPc,
      (∀ other, other ≠ 0 → threads other = reusedCtid.threads other) →
        ∀ other, other ≠ 0 → (threads other).activeOn = none :=
    fun _ same other ne => (same other ne).symm ▸ reusedCtid_idle other
  have reached : WorldReachable releasingPlugins 0 Serialized reusedCtid _ :=
    .step (.step (.step .init (serialized_of_idle (alone _ fun _ _ => rfl)) rfl)
      (serialized_of_idle (alone _ fun _ ne => Function.update_noteq ne _ _)) rfl)
      (serialized_of_idle (alone _ fun _ ne => by simp only [Function.update_noteq ne])) rfl
  exact ⟨_, _, _, reached, rfl, by decide, ⟨_, rfl⟩,
    @serialized_bypass_safe releasingPlugins 0 reusedCtid
      (fun _ _ mapped => Option.noConfusion mapped) reusedCtid_idle _ _ (.release 0 "geoip") _
      reached trivial rfl⟩

/-- Thread 0 creates session 0 and starts its subscribers; thread 1 finds session 0 under ct id 9
with another tuple, takes it out of the table and creates session 1 in its place; then thread
0's geoip handler releases session 0. That release writes `bypass_packetd` for ct id 9 while
ct id 9 is mapped to session 1, whose geoip subscription is still live. -/
theorem bypass_written_for_live_session :
    ∃ world world' writes,
      WorldReachable releasingPlugins 0 (fun _ _ => True) reusedCtid world ∧
      worldStep releasingPlugins 0 world (.release 0 "geoip") = some (world', writes) ∧
      bypassWrite 9 ∈ writes ∧
      ∃ session, world'.sys.findSession 9 = some (1, session) ∧
        session.subscriptions.keys = ["geoip"] :=
  ⟨_, _, _, reachable_runWorld releasingPlugins 0 (fun _ _ => trivial)
      [.next 0, .next 0, .next 0, .next 1, .next 1, .next 1, .next 1] _ _ .init rfl,
    rfl, by decide, _, rfl, by decide⟩

end Packetd