import Packetd.Daemon
import Packetd.Pipeline

/-! The bypass handshake between the dispatcher and the ruleset. A plugin that is done with a
flow gives up its subscription; once a session has none left, `callSubscribers` writes
`bypass_packetd` for its conntrack, and the queue chain returns for every later packet of that
conntrack that conntrack does not call new. With plugins that give up their subscription on
every packet, as the geoip plugin does, this closes the loop: the first queued packet of a flow
is the only one the dispatcher sees until conntrack starts the flow over. For any plugins, a
release is final: a session object never regains a subscription, so a plugin that has let a
session go has no say over its later packets. -/

namespace Packetd

/-- Plugins whose handlers give up their own subscription on every packet, by a `ReleaseSession`
action or by the `SessionRelease` result. -/
structure ReleasesOwn (plugins : Plugins) : Prop where
  releases : ∀ owner mess ctid newSession,
    PluginAction.releaseSession ∈ (plugins.handler owner mess ctid newSession).actions ∨
      (plugins.handler owner mess ctid newSession).sessionRelease = true

/-- Plugins that give up their own subscription on every packet and write no `bypass_packetd`
field themselves. -/
structure SelfReleasing (plugins : Plugins) extends ReleasesOwn plugins : Prop where
  keepsBypass : ∀ owner mess ctid newSession field value,
    PluginAction.addSessionEntry field value ∈
        (plugins.handler owner mess ctid newSession).actions →
      field ≠ "bypass_packetd"

def Without (sid : Nat) (owner : String) (sys : System) : Prop :=
  ∀ object, sys.sessions sid = some object → owner ∉ object.subscriptions

theorem mem_subscriptions_of_subset {session session' : Session} {owner : String}
    (fewer : session'.subscriptions.entries ⊆ session.subscriptions.entries)
    (member : owner ∈ session'.subscriptions) : owner ∈ session.subscriptions := by
  obtain ⟨entry, mem, rfl⟩ := List.mem_map.1 (AList.mem_keys.1 member)
  exact AList.mem_keys.2 (List.mem_map_of_mem Sigma.fst (fewer mem))

theorem PluginFrame.without {sys sys' : System} (frame : PluginFrame sys sys') {sid : Nat}
    {owner : String} (gone : Without sid owner sys) : Without sid owner sys' := by
  intro object' stored' member
  obtain ⟨object, stored, fewer⟩ := frame.shrinks sid object' stored'
  exact gone object stored (mem_subscriptions_of_subset fewer member)

theorem without_releaseSession (sys : System) (sid : Nat) (owner : String) :
    Without sid owner (sys.releaseSession sid owner) := by
  intro object stored
  rw [System.releaseSession_sessions, if_pos rfl] at stored
  obtain ⟨original, -, rfl⟩ := Option.map_eq_some'.1 stored
  rw [releaseSession_mem]
  exact fun member => member.1 rfl

/-- Once the object `sid` has no subscriptions left, the dictionary marks its flow bypassed. -/
def BypassMarked (sid : Nat) (sys : System) : Prop :=
  ∀ object, sys.sessions sid = some object → object.subscriptions.keys = [] →
    sys.dict.bypassed object.conntrackID = true

theorem Dict.bypassed_addSessionEntry (dict : Dict) (write : DictWrite) (ctid : UInt32) :
    (dict.addSessionEntry write).bypassed ctid =
      if ctid = write.ctid ∧ "bypass_packetd" = write.field then write.value == .bool true
      else dict.bypassed ctid := by
  simp only [Dict.bypassed, Dict.addSessionEntry_sessions]
  split <;> simp

theorem bypassed_addAll_releaseSession {dict : Dict} {ctid : UInt32}
    (marked : dict.bypassed ctid = true) (session : Session) (owner : String) :
    (dict.addAll (releaseSession session owner).2).bypassed ctid = true := by
  rw [releaseSession_snd]
  split
  · simp [Dict.bypassed_addSessionEntry, bypassWrite, marked]
  · exact marked

theorem bypassMarked_releaseSession {sid : Nat} {sys : System} (marked : BypassMarked sid sys)
    (sid' : Nat) (owner : String) : BypassMarked sid (sys.releaseSession sid' owner) := by
  intro object stored empty
  unfold System.releaseSession at stored ⊢
  cases found : sys.sessions sid' with
  | none => simp only [found] at stored ⊢; exact marked object stored empty
  | some session =>
      simp only [found, System.modifySession] at stored ⊢
      split at stored
      · next same =>
          subst same
          rw [found] at stored
          cases stored
          rw [releaseSession_keys] at empty
          rw [releaseSession_conntrackID]
          by_cases held : session.subscriptions.keys = []
          · exact bypassed_addAll_releaseSession (marked session found held) session owner
          · rw [releaseSession_snd, if_pos ⟨held, empty⟩]
            simp [Dict.bypassed_addSessionEntry, bypassWrite]
      · exact bypassed_addAll_releaseSession (marked object stored empty) session owner

theorem bypassMarked_applyAction {sid : Nat} {sys : System} (marked : BypassMarked sid sys)
    (owner : String) (ctid : UInt32) (sid' : Nat) (action : PluginAction)
    (keeps : ∀ field value, action = .addSessionEntry field value → field ≠ "bypass_packetd") :
    BypassMarked sid (applyAction owner ctid sid' sys action) := by
  cases action with
  | releaseSession => exact bypassMarked_releaseSession marked sid' owner
  | addSessionEntry field value =>
      intro object stored empty
      have other := keeps field value rfl
      simp only [applyAction, System.addSessionEntry, Dict.bypassed_addSessionEntry] at stored ⊢
      rw [if_neg fun same => other same.2.symm]
      exact marked object stored empty
  | putAttachment key value =>
      intro object stored empty
      simp only [applyAction, System.modifySession] at stored ⊢
      split at stored
      · obtain ⟨original, found, rfl⟩ := Option.map_eq_some'.1 stored
        exact marked original found empty
      · exact marked object stored empty

section Tiers

variable (plugins : Plugins) (ctid : UInt32) (sid : Nat) (mess : NfqueueMessage)
  (newSession : Bool)

def handlerPhase (sys : System) (owners : List String) : System :=
  owners.foldl (fun sys owner =>
    (plugins.handler owner mess ctid newSession).actions.foldl (applyAction owner ctid sid) sys) sys

def joinPhase (sys : System) (results : List (String × Bool)) : System :=
  results.foldl (fun sys result => if result.2 then sys.releaseSession sid result.1 else sys) sys

theorem runTier_eq (sys : System) (owners : List String) :
    runTier plugins ctid sid mess newSession sys owners =
      joinPhase sid (handlerPhase plugins ctid sid mess newSession sys owners)
        (owners.map fun owner =>
          (owner, (plugins.handler owner mess ctid newSession).sessionRelease)) := by
  have phases : ∀ (owners : List String) (state : System × List (String × Bool)),
      owners.foldl (fun (state : System × List (String × Bool)) owner =>
        ((plugins.handler owner mess ctid newSession).actions.foldl (applyAction owner ctid sid)
          state.1,
          state.2 ++ [(owner, (plugins.handler owner mess ctid newSession).sessionRelease)]))
        state =
      (handlerPhase plugins ctid sid mess newSession state.1 owners,
        state.2 ++ owners.map fun owner =>
          (owner, (plugins.handler owner mess ctid newSession).sessionRelease)) := by
    intro owners
    induction owners with
    | nil => intro state; simp [handlerPhase]
    | cons owner owners ih =>
        intro state
        rw [List.foldl_cons, ih]
        simp [handlerPhase]
  unfold runTier
  rw [phases]
  simp [joinPhase]

theorem handlerPhase_frame (sys : System) (owners : List String) :
    PluginFrame sys (handlerPhase plugins ctid sid mess newSession sys owners) :=
  foldl_frame _ (fun sys owner => foldl_frame _ (applyAction_frame owner ctid sid) _ sys) owners sys

theorem joinPhase_frame (sys : System) (results : List (String × Bool)) :
    PluginFrame sys (joinPhase sid sys results) :=
  foldl_frame _ (fun sys result => by
    split
    · exact releaseSession_frame sys sid result.1
    · exact PluginFrame.refl sys) results sys

theorem actions_without (owner : String) (actions : List PluginAction)
    (acted : PluginAction.releaseSession ∈ actions) (sys : System) :
    Without sid owner (actions.foldl (applyAction owner ctid sid) sys) := by
  induction actions generalizing sys with
  | nil => cases acted
  | cons action actions ih =>
      rw [List.foldl_cons]
      rcases List.mem_cons.1 acted with rfl | later
      · exact (foldl_frame _ (applyAction_frame owner ctid sid) actions _).without
          (without_releaseSession sys sid owner)
      · exact ih later _

theorem handlerPhase_without {owner : String}
    (acted : PluginAction.releaseSession ∈ (plugins.handler owner mess ctid newSession).actions) :
    ∀ (owners : List String), owner ∈ owners → ∀ sys,
      Without sid owner (handlerPhase plugins ctid sid mess newSession sys owners)
  | other :: owners, member, sys => by
      unfold handlerPhase
      rw [List.foldl_cons]
      by_cases same : other = owner
      · subst same
        exact (handlerPhase_frame plugins ctid sid mess newSession _ owners).without
          (actions_without ctid sid other _ acted sys)
      · exact handlerPhase_without acted owners
          ((List.mem_cons.1 member).resolve_left (Ne.symm same)) _

theorem joinPhase_without {owner : String} :
    ∀ (results : List (String × Bool)), (owner, true) ∈ results → ∀ sys,
      Without sid owner (joinPhase sid sys results)
  | result :: results, member, sys => by
      unfold joinPhase
      rw [List.foldl_cons]
      by_cases same : result = (owner, true)
      · subst same
        exact (joinPhase_frame sid _ results).without (without_releaseSession sys sid owner)
      · exact joinPhase_without results ((List.mem_cons.1 member).resolve_left (Ne.symm same)) _

theorem runTier_bypassMarked (releasing : SelfReleasing plugins) {sys : System}
    (marked : BypassMarked sid sys) (owners : List String) :
    BypassMarked sid (runTier plugins ctid sid mess newSession sys owners) := by
  rw [runTier_eq]
  refine List.foldlRecOn _ _ _ (List.foldlRecOn _ _ _ marked fun sys marked owner _ => ?_)
    fun sys marked result _ => ?_
  · exact List.foldlRecOn _ _ _ marked fun sys marked action member =>
      bypassMarked_applyAction marked owner ctid sid action fun field value same =>
        releasing.keepsBypass owner mess ctid newSession field value (same ▸ member)
  · dsimp only
    split
    · exact bypassMarked_releaseSession marked sid result.1
    · exact marked

variable {plugins} (releasing : ReleasesOwn plugins)
include releasing

theorem runTier_without (sys : System) {owners : List String} {owner : String}
    (member : owner ∈ owners) :
    Without sid owner (runTier plugins ctid sid mess newSession sys owners) := by
  rw [runTier_eq]
  rcases releasing.releases owner mess ctid newSession with acted | asked
  · exact (joinPhase_frame sid _ _).without
      (handlerPhase_without plugins ctid sid mess newSession acted owners member sys)
  · exact joinPhase_without sid _ (List.mem_map.2 ⟨owner, member, by rw [asked]⟩) _

theorem tiers_without {owner : String} :
    ∀ (tiers : List (List String)), owner ∈ tiers.flatten → ∀ sys,
      Without sid owner (tiers.foldl (runTier plugins ctid sid mess newSession) sys)
  | tier :: tiers, member, sys => by
      rw [List.foldl_cons]
      rcases List.mem_append.1 (List.flatten_cons ▸ member) with here | later
      · exact (foldl_frame _ (runTier_frame plugins ctid sid mess newSession) tiers _).without
          (runTier_without ctid sid mess newSession releasing sys here)
      · exact tiers_without tiers later _

end Tiers

theorem callSubscribers_cases {plugins : Plugins} {ctid : UInt32} {sid : Nat} {session : Session}
    {mess : NfqueueMessage} {newSession : Bool} {sys sys' : System} {verdict : Nat}
    (returned : callSubscribers plugins ctid sid session mess newSession sys =
      .ok (verdict, sys')) :
    (session.subscriptions.keys = [] ∧
        sys' = sys.addSessionEntry (bypassWrite session.conntrackID)) ∨
      (session.subscriptions.keys ≠ [] ∧ CalledBelow session.subscriptions 100 ∧
        sys' = (priorityWalk session.subscriptions).tiers.foldl
          (runTier plugins ctid sid mess newSession) sys) := by
  unfold callSubscribers at returned
  simp only [List.length_eq_zero] at returned
  split at returned
  · next empty => cases returned; exact .inl ⟨empty, rfl⟩
  · next held =>
      split at returned
      · next normal => cases returned; exact .inr ⟨held, (priorityWalk_normal_iff _).1 normal, rfl⟩
      · cases returned

theorem callSubscribers_allReleased {plugins : Plugins} (releasing : ReleasesOwn plugins)
    (ctid : UInt32) (sid : Nat) (session : Session) (mess : NfqueueMessage) (newSession : Bool)
    {sys sys' : System} {verdict : Nat} (stored : sys.sessions sid = some session)
    (returned : callSubscribers plugins ctid sid session mess newSession sys =
      .ok (verdict, sys')) :
    ∃ object, sys'.sessions sid = some object ∧ object.subscriptions.keys = [] ∧
      object.conntrackID = session.conntrackID := by
  rcases callSubscribers_cases returned with ⟨empty, rfl⟩ | ⟨-, inRange, rfl⟩
  · exact ⟨session, stored, empty, rfl⟩
  · have frame := foldl_frame _ (runTier_frame plugins ctid sid mess newSession)
      (priorityWalk session.subscriptions).tiers sys
    obtain ⟨object, stored', plain⟩ := Option.map_eq_some'.1
      ((frame.sessions sid).trans (by rw [stored]; rfl))
    refine ⟨object, stored', List.eq_nil_iff_forall_not_mem.2 fun owner member => ?_,
      by simpa [Session.withoutPlugins] using congrArg Session.conntrackID plain⟩
    obtain ⟨original, found, fewer⟩ := frame.shrinks sid object stored'
    cases stored.symm.trans found
    exact tiers_without ctid sid mess newSession releasing _
      ((mem_priorityWalk_tiers _ inRange owner).2 (mem_subscriptions_of_subset fewer member))
      sys object stored' member

theorem callSubscribers_bypassMarked {plugins : Plugins} (releasing : SelfReleasing plugins)
    (ctid : UInt32) (sid : Nat) (session : Session) (mess : NfqueueMessage) (newSession : Bool)
    {sys sys' : System} {verdict : Nat} (stored : sys.sessions sid = some session)
    (returned : callSubscribers plugins ctid sid session mess newSession sys =
      .ok (verdict, sys')) :
    BypassMarked sid sys' := by
  rcases callSubscribers_cases returned with ⟨-, rfl⟩ | ⟨held, -, rfl⟩
  · intro object found _
    cases stored.symm.trans found
    exact Dict.bypassed_addSessionEntry_bypassWrite _ _
  · refine List.foldlRecOn _ _ _ (fun object found empty => ?_) fun sys marked tier _ =>
      runTier_bypassMarked plugins ctid sid mess newSession releasing marked tier
    cases stored.symm.trans found
    exact absurd empty held

/-! ### One call -/

def MarksKept (sys sys' : System) : Prop :=
  ∀ ctid, sys.dict.bypassed ctid = true → sys'.dict.bypassed ctid = true

theorem MarksKept.refl (sys : System) : MarksKept sys sys := fun _ => id

theorem MarksKept.trans {first second third : System} (one : MarksKept first second)
    (two : MarksKept second third) : MarksKept first third :=
  fun ctid marked => two ctid (one ctid marked)

theorem marksKept_addSessionEntry (sys : System) (write : DictWrite)
    (keeps : write.field = "bypass_packetd" → write.value = .bool true) :
    MarksKept sys (sys.addSessionEntry write) := by
  intro ctid marked
  simp only [System.addSessionEntry, Dict.bypassed_addSessionEntry]
  split
  · next same => simp [keeps same.2.symm]
  · exact marked

theorem marksKept_releaseSession (sys : System) (sid : Nat) (owner : String) :
    MarksKept sys (sys.releaseSession sid owner) := by
  intro ctid marked
  unfold System.releaseSession
  split
  · exact bypassed_addAll_releaseSession marked _ owner
  · exact marked

theorem marksKept_foldl {α : Type} (act : System → α → System) (items : List α)
    (keeps : ∀ sys item, item ∈ items → MarksKept sys (act sys item)) (sys : System) :
    MarksKept sys (items.foldl act sys) :=
  List.foldlRecOn items act sys (MarksKept.refl sys) fun _ kept item member =>
    kept.trans (keeps _ item member)

theorem marksKept_runTier {plugins : Plugins} (releasing : SelfReleasing plugins) (ctid : UInt32)
    (sid : Nat) (mess : NfqueueMessage) (newSession : Bool) (sys : System) (owners : List String) :
    MarksKept sys (runTier plugins ctid sid mess newSession sys owners) := by
  rw [runTier_eq]
  refine (marksKept_foldl _ _ (fun sys owner _ => marksKept_foldl _ _
    (fun sys action member => ?_) sys) sys).trans (marksKept_foldl _ _ (fun sys result _ => ?_) _)
  · cases action with
    | releaseSession => exact marksKept_releaseSession sys sid owner
    | addSessionEntry field value =>
        exact marksKept_addSessionEntry sys _ fun same =>
          absurd same (releasing.keepsBypass owner mess ctid newSession field value member)
    | putAttachment key value => exact fun _ => id
  · dsimp only
    split
    · exact marksKept_releaseSession sys sid result.1
    · exact MarksKept.refl sys

theorem marksKept_callSubscribers {plugins : Plugins} (releasing : SelfReleasing plugins)
    (ctid : UInt32) (sid : Nat) (session : Session) (mess : NfqueueMessage) (newSession : Bool)
    {sys sys' : System} {verdict : Nat}
    (returned : callSubscribers plugins ctid sid session mess newSession sys =
      .ok (verdict, sys')) :
    MarksKept sys sys' := by
  rcases callSubscribers_cases returned with ⟨-, rfl⟩ | ⟨-, -, rfl⟩
  · exact marksKept_addSessionEntry sys _ fun _ => rfl
  · exact marksKept_foldl _ _ (fun sys tier _ =>
      marksKept_runTier releasing ctid sid mess newSession sys tier) sys

def AllReleased (sys : System) : Prop :=
  ∀ sid session, sys.sessions sid = some session → session.subscriptions.keys = []

theorem keys_eq_nil_of_subset {session session' : Session}
    (fewer : session'.subscriptions.entries ⊆ session.subscriptions.entries)
    (empty : session.subscriptions.keys = []) : session'.subscriptions.keys = [] :=
  List.eq_nil_iff_forall_not_mem.2 fun owner member =>
    List.eq_nil_iff_forall_not_mem.1 empty owner (mem_subscriptions_of_subset fewer member)

theorem resolveSession_others (plugins : Plugins) (now : Nat) (ctid : UInt32)
    (mess : NfqueueMessage) (newSession : Bool) (sys : System) {sid : Nat} {session : Session}
    {created : Bool}
    (resolved : (resolveSession plugins now ctid mess newSession sys).1 =
      .found sid session created) (id : Nat) (other : id ≠ sid) :
    (resolveSession plugins now ctid mess newSession sys).2.sessions id = sys.sessions id := by
  rcases resolveSession_sessions plugins now ctid mess newSession sys with
    ⟨-, same⟩ | ⟨_, fresh, same⟩
  · rw [same]
  · rw [resolved] at fresh
    cases fresh
    rw [same, Function.update_noteq other]

theorem resolveSession_kept (plugins : Plugins) (now : Nat) (ctid : UInt32)
    (mess : NfqueueMessage) (newSession : Bool) (sys : System) {sid : Nat} {session : Session}
    {created : Bool}
    (resolved : (resolveSession plugins now ctid mess newSession sys).1 =
      .found sid session created) {object : Session} (stored : sys.sessions sid = some object) :
    session = object := by
  have settled := resolveSession_stored plugins now ctid mess newSession sys resolved
  rcases resolveSession_sessions plugins now ctid mess newSession sys with
    ⟨-, same⟩ | ⟨_, fresh, -⟩
  · rw [same, stored] at settled
    exact (Option.some.inj settled).symm
  · rw [resolved] at fresh
    cases fresh
    rw [sys.unallocated _ le_rfl] at stored
    cases stored

theorem processSession_handoff {plugins : Plugins} {now : Nat} {ctid pmark : UInt32}
    {mess : NfqueueMessage} {sid : Nat} {session : Session} {newSession : Bool}
    {sys sys' : System} {verdict : Nat} {old : Session} (stored : sys.sessions sid = some old)
    (returned : processSession plugins now ctid pmark mess sid session newSession sys =
      .ok (verdict, sys')) :
    ∃ sysU mess', callSubscribers plugins ctid sid (updateSession now pmark newSession mess
        session).1 mess' newSession sysU = .ok (verdict, sys') ∧
      sysU.sessions sid = some (updateSession now pmark newSession mess session).1 ∧
      (∀ id, id ≠ sid → sysU.sessions id = sys.sessions id) ∧ sysU.dict = sys.dict := by
  have base : (if newSession then sys.removeConntrack ctid else sys).sessions = sys.sessions := by
    split <;> rfl
  have dict : (if newSession then sys.removeConntrack ctid else sys).dict = sys.dict := by
    split <;> rfl
  refine ⟨_, _, returned, ?_, fun id other => ?_, dict⟩
  · simp only [System.modifySession, if_pos rfl, base, stored]
    rfl
  · simp [System.modifySession, other, base]

theorem nfqueueCallback_shape {plugins : Plugins} {now : Nat} {ctid family : UInt32}
    {packet : Packet} {packetLength : Nat} {pmark : UInt32} {sys sys' : System} {verdict : Nat}
    (returned : nfqueueCallback plugins now ctid family packet packetLength pmark sys =
      .ok (verdict, sys')) :
    (sys' = sys ∧ ∀ mess, parseMessage family packet packetLength pmark = some mess →
      (mess.msgTuple.clientAddress.isLoopback || mess.msgTuple.serverAddress.isLoopback) =
        true) ∨
    sys' = sys.addSessionEntry (bypassWrite ctid) ∨
    ∃ mess sid session newSession,
      (resolveSession plugins now ctid mess (pmark &&& 0x10000000 != 0) sys).1 =
        .found sid session newSession ∧
      processSession plugins now ctid pmark mess sid session newSession
        (resolveSession plugins now ctid mess (pmark &&& 0x10000000 != 0) sys).2 =
          .ok (verdict, sys') := by
  unfold nfqueueCallback at returned
  split at returned
  · next unparsed =>
      cases returned
      exact .inl ⟨rfl, fun mess parsed => nomatch unparsed.symm.trans parsed⟩
  · next mess parsed =>
      split at returned
      · next loopback =>
          cases returned
          exact .inl ⟨rfl, fun mess' parsed' => by cases parsed.symm.trans parsed'; exact loopback⟩
      · dsimp only at returned
        split at returned
        · next sysR resolved =>
            cases returned
            have same := resolveSession_midSession_eq plugins now ctid mess _ sys (by rw [resolved])
            rw [resolved] at same
            exact .inr (.inl same)
        · next sid session newSession sysR resolved =>
            exact .inr (.inr ⟨mess, sid, session, newSession, by rw [resolved],
              by rw [resolved]; exact returned⟩)

theorem nfqueueCallback_allReleased {plugins : Plugins} (releasing : ReleasesOwn plugins)
    {now : Nat} {ctid family : UInt32} {packet : Packet} {packetLength : Nat} {pmark : UInt32}
    {sys sys' : System} {verdict : Nat}
    (returned : nfqueueCallback plugins now ctid family packet packetLength pmark sys =
      .ok (verdict, sys')) (released : AllReleased sys) : AllReleased sys' := by
  rcases nfqueueCallback_shape returned with ⟨rfl, -⟩ | rfl |
    ⟨mess, sid, session, newSession, resolved, processed⟩
  · exact released
  · exact released
  · obtain ⟨sysU, mess', called, here, others, -⟩ := processSession_handoff
      (resolveSession_stored plugins now ctid mess _ sys resolved) processed
    obtain ⟨object, stored', empty, -⟩ :=
      callSubscribers_allReleased releasing ctid sid _ mess' newSession here called
    intro id object' found
    by_cases same : id = sid
    · subst same
      cases stored'.symm.trans found
      exact empty
    · obtain ⟨original, found', fewer⟩ :=
        (callSubscribers_frame plugins ctid sid _ mess' newSession _ called).2.shrinks id object'
          found
      rw [others id same, resolveSession_others plugins now ctid mess _ sys resolved id same]
        at found'
      exact keys_eq_nil_of_subset fewer (released id original found')

theorem nfqueueCallback_selfReleasing {plugins : Plugins} (releasing : SelfReleasing plugins)
    (now : Nat) (ctid family : UInt32) (packet : Packet) (packetLength : Nat) (pmark : UInt32)
    {sys sys' : System} {verdict : Nat} (keyed : WellKeyed sys)
    (returned : nfqueueCallback plugins now ctid family packet packetLength pmark sys =
      .ok (verdict, sys')) :
    MarksKept sys sys' ∧
      ∀ mess, parseMessage family packet packetLength pmark = some mess →
        (mess.msgTuple.clientAddress.isLoopback || mess.msgTuple.serverAddress.isLoopback) =
          false →
        sys'.dict.bypassed ctid = true := by
  rcases nfqueueCallback_shape returned with ⟨rfl, unqueued⟩ | rfl |
    ⟨mess, sid, session, newSession, resolved, processed⟩
  · exact ⟨MarksKept.refl _, fun mess parsed remote =>
      absurd (remote.symm.trans (unqueued mess parsed)) Bool.false_ne_true⟩
  · exact ⟨marksKept_addSessionEntry _ _ fun _ => rfl,
      fun _ _ _ => Dict.bypassed_addSessionEntry_bypassWrite _ _⟩
  · obtain ⟨sysU, mess', called, here, -, sameDict⟩ := processSession_handoff
      (resolveSession_stored plugins now ctid mess _ sys resolved) processed
    have dictR := resolveSession_found_dict plugins now ctid mess _ sys resolved
    refine ⟨fun c marked => marksKept_callSubscribers releasing ctid sid _ mess' newSession called c
      (by rwa [sameDict, dictR]), fun _ _ _ => ?_⟩
    obtain ⟨object, stored', empty, sameID⟩ :=
      callSubscribers_allReleased releasing.toReleasesOwn ctid sid _ mess' newSession here called
    have key : object.conntrackID = ctid := by
      rw [sameID, updateSession_conntrackID,
        resolveSession_conntrackID plugins now ctid mess _ keyed resolved]
    exact key ▸ callSubscribers_bypassMarked releasing ctid sid _ mess' newSession here called
      object stored' empty

/-- With plugins that give up their own subscription on every packet, every session of every
state the dispatcher reaches has given up all its subscriptions: no later packet of a session
calls a handler. -/
theorem processed_allReleased {plugins : Plugins} (releasing : ReleasesOwn plugins)
    {sys : System} (processed : Processed plugins sys) : AllReleased sys := by
  induction processed with
  | startup => exact fun _ _ stored => nomatch stored
  | packet _ _ _ _ _ _ _ called ih => exact nfqueueCallback_allReleased releasing called ih

/-! ### Releases are final -/

def Released (sid : Nat) (owner : String) (sys : System) : Prop :=
  ∃ object, sys.sessions sid = some object ∧ owner ∉ object.subscriptions

theorem PluginFrame.released {sys sys' : System} (frame : PluginFrame sys sys') {sid : Nat}
    {owner : String} (released : Released sid owner sys) : Released sid owner sys' := by
  obtain ⟨object, stored, gone⟩ := released
  have kept := frame.sessions sid
  rw [stored, Option.map_some'] at kept
  obtain ⟨object', stored', -⟩ := Option.map_eq_some'.1 kept
  obtain ⟨original, found, fewer⟩ := frame.shrinks sid object' stored'
  rw [stored] at found
  cases found
  exact ⟨object', stored', fun member => gone (mem_subscriptions_of_subset fewer member)⟩

theorem nfqueueCallback_released (plugins : Plugins) (now : Nat) (ctid family : UInt32)
    (packet : Packet) (packetLength : Nat) (pmark : UInt32) {sys sys' : System} {verdict : Nat}
    (returned : nfqueueCallback plugins now ctid family packet packetLength pmark sys =
      .ok (verdict, sys')) {sid : Nat} {owner : String} (released : Released sid owner sys) :
    Released sid owner sys' := by
  obtain ⟨object, stored, gone⟩ := released
  rcases nfqueueCallback_shape returned with ⟨rfl, -⟩ | rfl |
    ⟨mess, sid₀, session, newSession, resolved, processed⟩
  · exact ⟨object, stored, gone⟩
  · exact ⟨object, stored, gone⟩
  · obtain ⟨sysU, mess', called, here, others, -⟩ := processSession_handoff
      (resolveSession_stored plugins now ctid mess _ sys resolved) processed
    refine (callSubscribers_frame plugins ctid sid₀ _ mess' newSession _ called).2.released ?_
    by_cases same : sid = sid₀
    · subst same
      cases resolveSession_kept plugins now ctid mess _ sys resolved stored
      exact ⟨_, here, by rwa [updateSession_subscriptions]⟩
    · exact ⟨object, by rw [others sid same,
        resolveSession_others plugins now ctid mess _ sys resolved sid same, stored], gone⟩

theorem callbackRun_released {plugins : Plugins} {sys sys' : System}
    (run : Relation.ReflTransGen (CallbackStep plugins) sys sys') {sid : Nat} {owner : String}
    (released : Released sid owner sys) : Released sid owner sys' := by
  induction run with
  | refl => exact released
  | tail _ step ih =>
      obtain ⟨now, ctid, family, packet, packetLength, pmark, verdict, returned⟩ := step
      exact nfqueueCallback_released plugins now ctid family packet packetLength pmark returned ih

/-- A release is final: once a session object holds no subscription of `owner`, whatever packets
follow, the object keeps holding none, and every later packet of a flow mapped to it that is not
marked new is answered, and leaves the dispatcher's state, as if `owner`'s handler were any
other handler. -/
theorem released_handler_ignored {plugins : Plugins} {sys₀ sys : System} {sid : Nat}
    {owner : String} {o₀ : Session} (stored : sys₀.sessions sid = some o₀)
    (released : owner ∉ o₀.subscriptions)
    (run : Relation.ReflTransGen (CallbackStep plugins) sys₀ sys) {ctid : UInt32}
    {session : Session} (mapped : sys.findSession ctid = some (sid, session)) (handler : Handler)
    (now : Nat) (family : UInt32) (packet : Packet) (packetLength : Nat) (pmark : UInt32)
    (notNew : pmark &&& 0x10000000 = 0) :
    owner ∉ session.subscriptions ∧
      nfqueueCallback ⟨plugins.registry, Function.update plugins.handler owner handler⟩ now ctid
          family packet packetLength pmark sys =
        nfqueueCallback plugins now ctid family packet packetLength pmark sys := by
  obtain ⟨object, storedNow, gone⟩ := callbackRun_released run ⟨o₀, stored, released⟩
  rw [(findSession_eq_some mapped).2] at storedNow
  cases storedNow
  refine ⟨gone, ?_⟩
  have newFalse : (pmark &&& 0x10000000 != 0) = false := by simp [notNew]
  unfold nfqueueCallback
  split
  · rfl
  · dsimp only
    split
    · rfl
    · rw [newFalse, resolveSession_found _ _ _ _ _ mapped (.inl rfl),
        resolveSession_found _ _ _ _ _ mapped (.inl rfl)]
      unfold processSession
      dsimp only
      refine callSubscribers_congr (fun other member => ?_) _ _ _ _ _
      rw [updateSession_subscriptions] at member
      exact Function.update_noteq (fun same => gone (by rwa [← same])) _ _

/-! ### The ruleset and the dispatcher -/

theorem parseMessage_mark {family : UInt32} {packet : Packet} {packetLength : Nat}
    {pmark : UInt32} {mess : NfqueueMessage}
    (parsed : parseMessage family packet packetLength pmark = some mess) (pmark' : UInt32) :
    ∃ mess', parseMessage family packet packetLength pmark' = some mess' ∧
      mess'.msgTuple = mess.msgTuple := by
  unfold parseMessage at parsed ⊢
  obtain ⟨⟨protocol, client, server, ip4Layer, ip6Layer⟩, addressed, rfl⟩ :=
    Option.map_eq_some'.1 parsed
  rw [addressed]
  exact ⟨_, rfl, rfl⟩

theorem evalHook_prerouting_dict (devnet : Option Prefix4) (first last : Nat) (t : Traversal) :
    (evalHook (insertPacketdRules devnet first last) .prerouting t).2.dict =
      if t.ctState = .new then t.dict.flushSession t.ctID else t.dict := by
  rw [evalHook_prerouting, evalRules_queue]
  by_cases new : t.ctState = .new <;> simp only [new, ↓reduceIte] <;> split <;> rfl

theorem evalHook_prerouting_bypassed (devnet : Option Prefix4) (first last : Nat) (t : Traversal)
    (established : t.ctState ≠ .new) (marked : t.dict.bypassed t.ctID = true) :
    evalHook (insertPacketdRules devnet first last) .prerouting t = (.next, t) := by
  have returns : (queueReturns devnet).any (fun rule => rule.exprs.all (·.holds t)) = true := by
    cases any : (queueReturns devnet).any (fun rule => rule.exprs.all (·.holds t))
    · rw [queueReturns_pass] at any
      simp [marked] at any
    · rfl
  rw [evalHook_prerouting, evalRules_queue]
  simp only [established, ↓reduceIte, returns]

theorem forwardPacket_cases {plugins : Plugins} {devnet : Option Prefix4} {first last now : Nat}
    {family : UInt32} {packet : Packet} {packetLength : Nat} {t : Traversal} {sys sys' : System}
    {verdict : Verdict}
    (stepped : forwardPacket plugins devnet first last now family packet packetLength t sys =
      .ok (verdict, sys')) :
    let hooked :=
      evalHook (insertPacketdRules devnet first last) .prerouting { t with dict := sys.dict }
    (hooked.1 = .next ∧ verdict = .next ∧ sys' = { sys with dict := hooked.2.dict }) ∨
      (hooked.1 = .queued ∧ verdict = .queued ∧ ∃ answer,
        nfqueueCallback plugins now t.ctID family packet packetLength hooked.2.mark
          { sys with dict := hooked.2.dict } = .ok (answer, sys')) := by
  unfold forwardPacket at stepped
  dsimp only at stepped ⊢
  split at stepped
  · next hookedNext => cases stepped; exact .inl ⟨hookedNext, rfl, rfl⟩
  · next hookedQueued =>
      refine .inr ⟨hookedQueued, ?_⟩
      cases called : nfqueueCallback plugins now t.ctID family packet packetLength _
        { sys with dict := _ } with
      | error e => rw [called] at stepped; cases stepped
      | ok result =>
          rw [called] at stepped
          cases stepped
          exact ⟨rfl, result.1, rfl⟩

theorem WellFormed.withDict {registry : SubscriptionTable} {sys : System}
    (formed : WellFormed registry sys) (dict : Dict) :
    WellFormed registry { sys with dict := dict } :=
  ⟨formed.keyed, formed.snapshots⟩

/-- The states the host reaches from startup, one forwarded packet after another. -/
inductive Forwarded (plugins : Plugins) (devnet : Option Prefix4) (first last : Nat) :
    System → Prop
  | startup : Forwarded plugins devnet first last System.empty
  | packet {sys sys' : System} {verdict : Verdict} (now : Nat) (family : UInt32) (packet : Packet)
      (packetLength : Nat) (t : Traversal) : Forwarded plugins devnet first last sys →
      forwardPacket plugins devnet first last now family packet packetLength t sys =
        .ok (verdict, sys') →
      Forwarded plugins devnet first last sys'

section Handshake

variable {plugins : Plugins} (releasing : SelfReleasing plugins) {devnet : Option Prefix4}
  {first last : Nat}
include releasing

theorem forwardPacket_selfReleasing {now : Nat} {family : UInt32} {packet : Packet}
    {packetLength : Nat} {t : Traversal} {sys sys' : System} {verdict : Verdict}
    (formed : WellFormed plugins.registry sys)
    (stepped : forwardPacket plugins devnet first last now family packet packetLength t sys =
      .ok (verdict, sys')) :
    WellFormed plugins.registry sys' ∧
      (∀ ctid, (t.ctID ≠ ctid ∨ t.ctState ≠ .new) →
        sys.dict.bypassed ctid = true → sys'.dict.bypassed ctid = true) ∧
      (verdict = .queued → ∀ mess, parseMessage family packet packetLength t.mark = some mess →
        (mess.msgTuple.clientAddress.isLoopback || mess.msgTuple.serverAddress.isLoopback) =
          false →
        sys'.dict.bypassed t.ctID = true) := by
  have hooked := evalHook_prerouting_dict devnet first last { t with dict := sys.dict }
  have kept : ∀ ctid, (t.ctID ≠ ctid ∨ t.ctState ≠ .new) → sys.dict.bypassed ctid = true →
      (evalHook (insertPacketdRules devnet first last) .prerouting
        { t with dict := sys.dict }).2.dict.bypassed ctid = true := by
    intro ctid spared marked
    rw [hooked]
    dsimp only
    split
    · next new =>
        have other : ctid ≠ t.ctID := fun same => spared.elim (· same.symm) (· new)
        simpa [Dict.bypassed, other] using marked
    · exact marked
  rcases forwardPacket_cases stepped with ⟨-, rfl, rfl⟩ | ⟨-, rfl, answer, called⟩
  · exact ⟨formed.withDict _, kept, nofun⟩
  · obtain ⟨marks, handled⟩ := nfqueueCallback_selfReleasing releasing now t.ctID family packet
      packetLength _ (formed.withDict _).keyed called
    refine ⟨nfqueueCallback_wellFormed plugins now t.ctID family packet packetLength _
        (formed.withDict _) called,
      fun ctid spared marked => marks ctid (kept ctid spared marked),
      fun _ mess parsed remote => ?_⟩
    obtain ⟨mess', parsed', tuple⟩ := parseMessage_mark parsed _
    exact handled mess' parsed' (tuple ▸ remote)

theorem forwarded_wellFormed {sys : System} (reached : Forwarded plugins devnet first last sys) :
    WellFormed plugins.registry sys := by
  induction reached with
  | startup => exact wellFormed_empty plugins.registry
  | packet now family packet packetLength t _ stepped formed =>
      exact (forwardPacket_selfReleasing releasing formed stepped).1

/-- One forwarded packet that is not a new-state packet of conntrack `ctid`. -/
def SparesFlow (plugins : Plugins) (devnet : Option Prefix4) (first last : Nat) (ctid : UInt32)
    (sys sys' : System) : Prop :=
  ∃ now family packet packetLength t verdict, (t.ctID ≠ ctid ∨ t.ctState ≠ .new) ∧
    forwardPacket plugins devnet first last now family packet packetLength t sys =
      .ok (verdict, sys')

/-- The bypass handshake between the dispatcher and the ruleset: with self-releasing plugins, in
every state the host reaches, once a packet of a conntrack has been queued and handled, every
later packet of that conntrack that conntrack does not call new passes the hook without being
queued and changes nothing, whatever packets come in between, as long as none of them is a
new-state packet of the conntrack, whose flush takes the mark away. -/
theorem bypass_handshake {sys sys₁ sysB : System}
    (reached : Forwarded plugins devnet first last sys) {now : Nat} {family : UInt32}
    {packet : Packet} {packetLength : Nat} {t : Traversal}
    (queued : forwardPacket plugins devnet first last now family packet packetLength t sys =
      .ok (.queued, sys₁))
    {mess : NfqueueMessage} (parsed : parseMessage family packet packetLength t.mark = some mess)
    (remote : (mess.msgTuple.clientAddress.isLoopback || mess.msgTuple.serverAddress.isLoopback) =
      false)
    (later : Relation.ReflTransGen (SparesFlow plugins devnet first last t.ctID) sys₁ sysB)
    (now' : Nat) (family' : UInt32) (packet' : Packet) (packetLength' : Nat) {t' : Traversal}
    (same : t'.ctID = t.ctID) (established : t'.ctState ≠ .new) :
    forwardPacket plugins devnet first last now' family' packet' packetLength' t' sysB =
      .ok (.next, sysB) := by
  have along : Forwarded plugins devnet first last sysB ∧ sysB.dict.bypassed t.ctID = true := by
    induction later with
    | refl =>
        exact ⟨.packet now family packet packetLength t reached queued,
          (forwardPacket_selfReleasing releasing (forwarded_wellFormed releasing reached)
            queued).2.2 rfl mess parsed remote⟩
    | tail _ step ih =>
        obtain ⟨reachedB, markedB⟩ := ih
        obtain ⟨_, _, _, _, _, _, spared, stepped⟩ := step
        exact ⟨.packet _ _ _ _ _ reachedB stepped,
          (forwardPacket_selfReleasing releasing (forwarded_wellFormed releasing reachedB)
            stepped).2.1 _ spared markedB⟩
  have passes := evalHook_prerouting_bypassed devnet first last { t' with dict := sysB.dict }
    established (show sysB.dict.bypassed t'.ctID = true from same ▸ along.2)
  unfold forwardPacket
  dsimp only
  rw [passes]

end Handshake

theorem geoipPlugins_selfReleasing (geoDatabase : Option GeoDatabase) :
    SelfReleasing (geoipPlugins geoDatabase) where
  releases _ mess ctid newSession := .inl (List.mem_of_mem_head?
    (pluginNfqueueHandler_releases geoDatabase mess ctid newSession).1)
  keepsBypass _ mess ctid newSession field value member := by
    simp only [geoipPlugins, pluginNfqueueHandler] at member
    split at member <;> simp at member
    rcases member with ⟨rfl, -⟩ | ⟨rfl, -⟩ <;> decide

/-- `firstPacket`'s flow under ct id 7, then the first packet of a UDP flow under ct id 9: geoip
has released both sessions. -/
theorem processed_allReleased_firstPacket :
    ∃ sys₁ sys₂,
      nfqueueCallback (geoipPlugins none) 5 7 2 firstPacket 60 0x10000002 System.empty =
        .ok (nfAccept, sys₁) ∧
      nfqueueCallback (geoipPlugins none) 6 9 2 udpFlow 60 0x10000002 sys₁ = .ok (nfAccept, sys₂) ∧
      AllReleased sys₂ :=
  ⟨_, _, rfl, rfl, processed_allReleased (geoipPlugins_selfReleasing none).toReleasesOwn
    (.packet 6 9 2 udpFlow 60 0x10000002 (.packet 5 7 2 firstPacket 60 0x10000002 .startup rfl)
      rfl)⟩

def tcpFlowTraversal : Traversal :=
  { udpFlowTraversal 1 with ctID := 7, protocol := 6, dport := 443 }

/-- The first packet of `firstPacket`'s flow is queued, then the first packet of the UDP flow;
the TCP server's reply, established, passes between them; the UDP flow's next established
packet is not queued. -/
theorem bypass_handshake_udpFlow :
    ∃ sys₀ sys₁ sysB,
      forwardPacket (geoipPlugins none) none 0 0 5 2 firstPacket 60 tcpFlowTraversal
        System.empty = .ok (.queued, sys₀) ∧
      forwardPacket (geoipPlugins none) none 0 0 6 2 udpFlow 60 (udpFlowTraversal 1) sys₀ =
        .ok (.queued, sys₁) ∧
      (∃ verdict, forwardPacket (geoipPlugins none) none 0 0 7 2 replyPacket 60
        { tcpFlowTraversal with ctState := .established } sys₁ = .ok (verdict, sysB)) ∧
      forwardPacket (geoipPlugins none) none 0 0 8 2 udpFlow 60
        { udpFlowTraversal 3 with ctState := .established } sysB = .ok (.next, sysB) :=
  ⟨_, _, _, rfl, rfl, ⟨_, rfl⟩,
    @bypass_handshake (geoipPlugins none) (geoipPlugins_selfReleasing none) none 0 0 _ _ _
      (.packet 5 2 firstPacket 60 tcpFlowTraversal .startup rfl) 6 2 udpFlow 60
      (udpFlowTraversal 1) rfl _ rfl rfl
      (.single ⟨7, 2, replyPacket, 60, { tcpFlowTraversal with ctState := .established }, _,
        .inl (by decide), rfl⟩) 8 2 udpFlow 60 { udpFlowTraversal 3 with ctState := .established }
      rfl (by decide)⟩

def releasedSession : Session :=
  { sessionID := 0, conntrackID := 7, creationTime := 5, packetCount := 1, byteCount := 60,
    eventCount := 1, lastActivity := 5,
    clientSideTuple := ⟨6, .v4 0x0a000005, 54321, .v4 0x5db8d822, 443⟩, family := 2,
    conntrackConfirmed := false, clientInterfaceID := 2, clientInterfaceType := 0,
    serverInterfaceID := 0, serverInterfaceType := 0, subscriptions := ∅, attachments := [] }

/-- After geoip released the session, the server's reply and a packet of another flow come in;
then a later packet of the flow is handled alike whether geoip's handler is its own or one that
writes a country and asks for the release. -/
theorem released_handler_ignored_firstPacket :
    ∃ sysR sys session,
      nfqueueCallback (geoipPlugins none) 6 7 2 replyPacket 60 0x00000003
          (System.empty.insertSession 7 releasedSession) = .ok (nfAccept, sysR) ∧
      nfqueueCallback (geoipPlugins none) 7 9 2 udpFlow 60 0x10000002 sysR = .ok (nfAccept, sys) ∧
      sys.findSession 7 = some (0, session) ∧
      "geoip" ∉ session.subscriptions ∧
      nfqueueCallback ⟨(geoipPlugins none).registry,
          Function.update (geoipPlugins none).handler "geoip"
            fun _ _ _ => ⟨[.addSessionEntry "client_country" (.str "ZZ")], true⟩⟩
          8 7 2 firstPacket 60 2 sys =
        nfqueueCallback (geoipPlugins none) 8 7 2 firstPacket 60 2 sys :=
  ⟨_, _, _, rfl, rfl, rfl,
    @released_handler_ignored (geoipPlugins none) (System.empty.insertSession 7 releasedSession) _
      0 "geoip" releasedSession rfl (by decide)
      (.tail (.single ⟨6, 7, 2, replyPacket, 60, 0x00000003, _, rfl⟩)
        ⟨7, 9, 2, udpFlow, 60, 0x10000002, _, rfl⟩) 7 _ rfl _ 8 2 firstPacket 60 2 rfl⟩

end Packetd
