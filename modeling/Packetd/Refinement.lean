import Packetd.Dispatch
import Packetd.Nfqueue

/-! The two readings of `callSubscribers` agree. The goroutine model of `Dispatch` runs the tasks
and the join in any interleaving; `Nfqueue` runs each tier's handlers, then its releases, one
after the other. When every handler returns its result before its watchdog fires and does
nothing else, each interleaving that returns leaves the session holding the subscriptions that
the sequential run leaves. -/

namespace Packetd

section Quiet

variable (plugins : Plugins) (ctid : UInt32) (sid : Nat) (mess : NfqueueMessage)
  (newSession : Bool)

def asksRelease (owner : String) : Bool :=
  (plugins.handler owner mess ctid newSession).sessionRelease

def releaseEach (sys : System) (owners : List String) : System :=
  owners.foldl (fun sys owner => sys.releaseSession sid owner) sys

variable (quiet : ∀ owner, (plugins.handler owner mess ctid newSession).actions = [])
include quiet

theorem runTier_quiet (sys : System) (owners : List String) :
    runTier plugins ctid sid mess newSession sys owners =
      releaseEach sid sys (owners.filter (asksRelease plugins ctid mess newSession)) := by
  have collected : ∀ (owners : List String) (results : List (String × Bool)),
      owners.foldl (fun (state : System × List (String × Bool)) owner =>
        (state.1,
          state.2 ++ [(owner, (plugins.handler owner mess ctid newSession).sessionRelease)]))
        (sys, results) =
        (sys, results ++ owners.map fun owner =>
          (owner, (plugins.handler owner mess ctid newSession).sessionRelease)) := by
    intro owners
    induction owners with
    | nil => simp
    | cons owner owners ih =>
        intro results
        simp only [List.foldl_cons, ih, List.map_cons, List.append_assoc, List.singleton_append]
  have released : ∀ (owners : List String) (sys : System),
      (owners.map fun owner =>
          (owner, (plugins.handler owner mess ctid newSession).sessionRelease)).foldl
        (fun sys result => if result.2 then sys.releaseSession sid result.1 else sys) sys =
        releaseEach sid sys (owners.filter (asksRelease plugins ctid mess newSession)) := by
    intro owners
    induction owners with
    | nil => intro sys; rfl
    | cons owner owners ih =>
        intro sys
        rw [List.map_cons, List.foldl_cons, List.filter_cons]
        split <;> simp_all [releaseEach, asksRelease]
  unfold runTier
  simp only [quiet, List.foldl_nil]
  rw [collected, List.nil_append, released]

theorem foldl_runTier_quiet (sys : System) (tiers : List (List String)) :
    tiers.foldl (runTier plugins ctid sid mess newSession) sys =
      releaseEach sid sys (tiers.flatten.filter (asksRelease plugins ctid mess newSession)) := by
  induction tiers generalizing sys with
  | nil => rfl
  | cons tier tiers ih =>
      rw [List.foldl_cons, ih, runTier_quiet plugins ctid sid mess newSession quiet,
        List.flatten_cons, List.filter_append, releaseEach, releaseEach, releaseEach,
        List.foldl_append]

end Quiet

theorem releaseEach_sessions (sid : Nat) (owners : List String) :
    ∀ sys : System, (releaseEach sid sys owners).sessions sid =
      (sys.sessions sid).map fun object => (releaseAll object owners).1 := by
  induction owners with
  | nil => intro sys; simp [releaseEach]
  | cons owner owners ih =>
      intro sys
      rw [releaseEach, List.foldl_cons, ← releaseEach, ih, System.releaseSession_sessions,
        if_pos rfl, Option.map_map]
      rfl

theorem releaseEach_dict (sid : Nat) (owners : List String) :
    ∀ (sys : System) (session : Session), sys.sessions sid = some session →
      (releaseEach sid sys owners).dict = sys.dict.addAll (releaseAll session owners).2 := by
  induction owners with
  | nil => intro sys session _; rfl
  | cons owner owners ih =>
      intro sys session stored
      have released : (sys.releaseSession sid owner).sessions sid =
          some (releaseSession session owner).1 := by
        rw [System.releaseSession_sessions, if_pos rfl, stored]
        rfl
      rw [releaseEach, List.foldl_cons, ← releaseEach, ih _ _ released, releaseAll_cons]
      simp only [System.releaseSession, stored, Dict.addAll, List.foldl_append]

theorem mem_releaseAll (session : Session) (owners : List String) (owner : String) :
    owner ∈ (releaseAll session owners).1.subscriptions ↔
      owner ∈ session.subscriptions ∧ owner ∉ owners := by
  rw [AList.mem_keys, releaseAll_keys, List.mem_filter, AList.mem_keys, decide_eq_true_iff]

theorem callSubscribers_quiet (plugins : Plugins) (ctid : UInt32) (sid : Nat) (session : Session)
    (mess : NfqueueMessage) (newSession : Bool) (sys : System)
    (quiet : ∀ owner, (plugins.handler owner mess ctid newSession).actions = [])
    (stored : sys.sessions sid = some session) (inRange : CalledBelow session.subscriptions 100) :
    ∃ sys' object, callSubscribers plugins ctid sid session mess newSession sys =
        .ok (nfAccept, sys') ∧ sys'.sessions sid = some object ∧
      (∀ owner, owner ∈ object.subscriptions ↔
        owner ∈ session.subscriptions ∧ asksRelease plugins ctid mess newSession owner = false) ∧
      sys'.dict = sys.dict.addAll
        (if object.subscriptions.keys = [] then [bypassWrite session.conntrackID] else []) := by
  by_cases empty : session.subscriptions.keys = []
  · refine ⟨_, session, callSubscribers_released plugins ctid sid session mess newSession sys empty,
      stored, fun owner => ?_, by rw [if_pos empty]; rfl⟩
    simp [AList.mem_keys, empty]
  · have normal := (priorityWalk_normal_iff session.subscriptions).2 inRange
    set owners := (priorityWalk session.subscriptions).tiers.flatten.filter
      (asksRelease plugins ctid mess newSession) with listed
    have ran : callSubscribers plugins ctid sid session mess newSession sys =
        .ok (nfAccept, releaseEach sid sys owners) := by
      simp only [callSubscribers, empty, List.length_eq_zero, ↓reduceIte, normal,
        foldl_runTier_quiet plugins ctid sid mess newSession quiet]
    refine ⟨_, (releaseAll session owners).1, ran, by rw [releaseEach_sessions, stored]; rfl,
      fun owner => ?_, ?_⟩
    · rw [mem_releaseAll, listed, List.mem_filter, mem_priorityWalk_tiers _ inRange]
      cases asksRelease plugins ctid mess newSession owner <;> simp
    · rw [releaseEach_dict sid owners sys session stored, releaseAll_writes, releaseAll_keys]
      simp [empty]

/-- The goroutines of `callSubscribers` refine its sequential reading: when every handler returns
its result before its watchdog fires and does nothing else, every interleaving that returns
leaves the session with the subscriptions that the tiers, run one after the other, leave in the
stored object, and has made the dictionary writes that they make. -/
theorem callSubscribers_refines (plugins : Plugins) (ctid : UInt32) (sid : Nat)
    (session : Session) (mess : NfqueueMessage) (newSession : Bool) (sys : System)
    (quiet : ∀ owner, (plugins.handler owner mess ctid newSession).actions = [])
    (stored : sys.sessions sid = some session) (inRange : CalledBelow session.subscriptions 100)
    {s : CallState}
    (reached : Reachable session.subscriptions
      (fun owner => .returns (asksRelease plugins ctid mess newSession owner)) session s)
    (done : s.dispatcher = .returned) :
    ∃ sys' object, callSubscribers plugins ctid sid session mess newSession sys =
        .ok (nfAccept, sys') ∧ sys'.sessions sid = some object ∧
      (∀ owner, owner ∈ object.subscriptions ↔ owner ∈ s.session.subscriptions) ∧
      sys'.dict = sys.dict.addAll s.writes := by
  obtain ⟨sys', object, returned, stored', kept, written⟩ :=
    callSubscribers_quiet plugins ctid sid session mess newSession sys quiet stored inRange
  have same : ∀ owner, owner ∈ object.subscriptions ↔ owner ∈ s.session.subscriptions :=
    fun owner => by
      rw [kept, callSubscribers_returned_subscriptions reached done, ne_eq,
        Behaviour.returns.injEq, Bool.not_eq_true]
  have emptied : object.subscriptions.keys = [] ↔ s.session.subscriptions.keys = [] := by
    simp only [List.eq_nil_iff_forall_not_mem]
    exact forall_congr' fun owner => not_congr (same owner)
  refine ⟨sys', object, returned, stored', same, ?_⟩
  rw [written, callSubscribers_returned_writes reached done, if_congr emptied rfl rfl]

def tieredPlugins : Plugins := ⟨twoTiers, fun owner _ _ _ => ⟨[], owner == "a"⟩⟩

def quietMessage : NfqueueMessage :=
  { session := none, msgTuple := (sessionOf twoTiers).clientSideTuple, family := 2,
    packetMark := 0, length := 60, clientToServer := true, ip4Layer := none, ip6Layer := none,
    tcpLayer := none, udpLayer := none }

def tieredState : System :=
  (System.empty.insertSession 3 { sessionOf geoipOnly with conntrackID := 3 }).insertSession 7
    (sessionOf twoTiers)

/-- The goroutines run tier 0, where `a` asks for the release, then tier 1, where `b` does not,
and return; the sequential run leaves object 1 holding `b` alone, as they do. -/
theorem callSubscribers_refines_geoipOnly :
    ∃ s, Reachable twoTiers
        (fun owner => .returns (asksRelease tieredPlugins 7 quietMessage false owner))
        (sessionOf twoTiers) s ∧ s.dispatcher = .returned ∧
      ∃ sys' object, callSubscribers tieredPlugins 7 1 (sessionOf twoTiers) quietMessage false
          tieredState = .ok (nfAccept, sys') ∧
        sys'.sessions 1 = some object ∧
        (∀ owner, owner ∈ object.subscriptions ↔ owner ∈ s.session.subscriptions) ∧
        sys'.dict = tieredState.dict.addAll s.writes := by
  have observed : (run twoTiers
      (fun owner => .returns (asksRelease tieredPlugins 7 quietMessage false owner))
      (CallState.init (sessionOf twoTiers))
      [.dispatcher, .dispatcher, .launch "a", .handlerReturns "a", .takeResult "a", .receive "a",
        .dispatcher, .dispatcher, .launch "b", .handlerReturns "b", .takeResult "b",
        .receive "b", .dispatcher, .dispatcher]).map (·.dispatcher) = some .returned := by
    decide
  obtain ⟨s, ran, done⟩ := Option.map_eq_some'.1 observed
  have reached := reachable_of_run ran
  exact ⟨s, reached, done, callSubscribers_refines tieredPlugins 7 1 (sessionOf twoTiers)
    quietMessage false _ (fun _ => rfl) rfl (by decide) reached done⟩

/-! Handlers that act on the session while they run. The goroutine model has no step for a
handler's own `ReleaseSession` call; read as a handler that asks the join for the release, such a
handler leaves the session, in every interleaving that returns, with the subscriptions the
sequential run leaves. -/

section Acting

variable (plugins : Plugins) (ctid : UInt32) (sid : Nat) (mess : NfqueueMessage)
  (newSession : Bool)

/-- Whether the handler of `owner` releases the session: by a `ReleaseSession` call of its own,
or by asking the join for it. -/
def releasesSession (owner : String) : Bool :=
  (plugins.handler owner mess ctid newSession).sessionRelease ||
    decide (.releaseSession ∈ (plugins.handler owner mess ctid newSession).actions)

def Subscribed (sys : System) (subscribed : String → Prop) : Prop :=
  ∃ object, sys.sessions sid = some object ∧
    ∀ owner, owner ∈ object.subscriptions ↔ subscribed owner

variable {sid}

theorem Subscribed.congr {sys : System} {subscribed subscribed' : String → Prop}
    (held : Subscribed sid sys subscribed) (same : ∀ owner, subscribed owner ↔ subscribed' owner) :
    Subscribed sid sys subscribed' :=
  let ⟨object, stored, mem⟩ := held
  ⟨object, stored, fun owner => (mem owner).trans (same owner)⟩

theorem subscribed_releaseSession {sys : System} {subscribed : String → Prop}
    (held : Subscribed sid sys subscribed) (owner : String) :
    Subscribed sid (sys.releaseSession sid owner) fun other =>
      subscribed other ∧ other ≠ owner := by
  obtain ⟨object, stored, mem⟩ := held
  refine ⟨_, by rw [System.releaseSession_sessions, if_pos rfl, stored]; rfl, fun other => ?_⟩
  rw [releaseSession_mem, mem, and_comm]

theorem subscribed_applyAction {sys : System} {subscribed : String → Prop}
    (held : Subscribed sid sys subscribed) (owner : String) (action : PluginAction) :
    Subscribed sid (applyAction owner ctid sid sys action) fun other =>
      subscribed other ∧ (action = .releaseSession → other ≠ owner) := by
  cases action with
  | releaseSession => exact (subscribed_releaseSession held owner).congr fun other => by simp
  | addSessionEntry field value => exact held.congr fun other => by simp
  | putAttachment key value =>
      obtain ⟨object, stored, mem⟩ := held
      exact ⟨{ object with attachments := (key, value) :: object.attachments },
        by simp [applyAction, System.modifySession, stored],
        fun other => (mem other).trans (by simp)⟩

theorem subscribed_applyActions (owner : String) :
    ∀ (actions : List PluginAction) {sys : System} {subscribed : String → Prop},
      Subscribed sid sys subscribed →
        Subscribed sid (actions.foldl (applyAction owner ctid sid) sys) fun other =>
          subscribed other ∧ (.releaseSession ∈ actions → other ≠ owner)
  | [], _, _, held => held.congr fun other => by simp
  | action :: actions, _, _, held =>
      (subscribed_applyActions owner actions
        (subscribed_applyAction ctid held owner action)).congr fun other => by
        simp only [List.mem_cons]
        tauto

theorem subscribed_joinReleases :
    ∀ (results : List (String × Bool)) {sys : System} {subscribed : String → Prop},
      Subscribed sid sys subscribed →
        Subscribed sid (results.foldl
          (fun sys result => if result.2 then sys.releaseSession sid result.1 else sys) sys)
          fun other => subscribed other ∧ (other, true) ∉ results
  | [], _, _, held => held.congr fun other => by simp
  | (owner, release) :: results, _, _, held => by
      rw [List.foldl_cons]
      cases release
      · exact (subscribed_joinReleases results held).congr fun other => by simp
      · exact (subscribed_joinReleases results
          (subscribed_releaseSession held owner)).congr fun other => by
          simp only [List.mem_cons, Prod.mk.injEq, and_true, not_or]
          tauto

theorem subscribed_runTier {sys : System} {subscribed : String → Prop}
    (held : Subscribed sid sys subscribed) (owners : List String) :
    Subscribed sid (runTier plugins ctid sid mess newSession sys owners) fun other =>
      subscribed other ∧
        ¬(other ∈ owners ∧ releasesSession plugins ctid mess newSession other) := by
  have handlers : ∀ (owners : List String) (results : List (String × Bool)) {sys : System}
      {subscribed : String → Prop}, Subscribed sid sys subscribed →
      let ran := owners.foldl (fun (state : System × List (String × Bool)) owner =>
        ((plugins.handler owner mess ctid newSession).actions.foldl (applyAction owner ctid sid)
          state.1,
          state.2 ++ [(owner, (plugins.handler owner mess ctid newSession).sessionRelease)]))
        (sys, results)
      ran.2 = results ++ owners.map (fun owner =>
          (owner, (plugins.handler owner mess ctid newSession).sessionRelease)) ∧
        Subscribed sid ran.1 fun other => subscribed other ∧ ¬(other ∈ owners ∧
          .releaseSession ∈ (plugins.handler other mess ctid newSession).actions) := by
    intro owners
    induction owners with
    | nil => exact fun results _ _ held => ⟨by simp, held.congr fun other => by simp⟩
    | cons owner owners ih =>
        intro results sys subscribed held
        obtain ⟨collected, acted⟩ := ih (results ++ _) (subscribed_applyActions ctid owner _ held)
        refine ⟨by simpa using collected, acted.congr fun other => ?_⟩
        simp only [List.mem_cons]
        constructor
        · rintro ⟨⟨kept, own⟩, rest⟩
          refine ⟨kept, fun ⟨member, acting⟩ => ?_⟩
          rcases member with rfl | member
          · exact own acting rfl
          · exact rest ⟨member, acting⟩
        · rintro ⟨kept, rest⟩
          exact ⟨⟨kept, fun acting same => rest ⟨.inl same, same ▸ acting⟩⟩,
            fun ⟨member, acting⟩ => rest ⟨.inr member, acting⟩⟩
  obtain ⟨collected, acted⟩ := handlers owners [] held
  simp only [Packetd.runTier]
  rw [collected]
  refine (subscribed_joinReleases _ acted).congr fun other => ?_
  simp only [releasesSession, List.nil_append, List.mem_map, Prod.mk.injEq, Bool.or_eq_true,
    decide_eq_true_eq]
  constructor
  · rintro ⟨⟨kept, own⟩, joined⟩
    exact ⟨kept, fun ⟨member, released⟩ => released.elim
      (fun asked => joined ⟨other, member, rfl, asked⟩) fun acting => own ⟨member, acting⟩⟩
  · rintro ⟨kept, rest⟩
    exact ⟨⟨kept, fun ⟨member, acting⟩ => rest ⟨member, .inr acting⟩⟩,
      fun ⟨_, member, same, asked⟩ => rest ⟨same ▸ member, .inl (same ▸ asked)⟩⟩

theorem subscribed_runTiers :
    ∀ (tiers : List (List String)) {sys : System} {subscribed : String → Prop},
      Subscribed sid sys subscribed →
        Subscribed sid (tiers.foldl (runTier plugins ctid sid mess newSession) sys) fun other =>
          subscribed other ∧
            ¬(other ∈ tiers.flatten ∧ releasesSession plugins ctid mess newSession other)
  | [], _, _, held => held.congr fun other => by simp
  | tier :: tiers, _, _, held =>
      (subscribed_runTiers tiers
        (subscribed_runTier plugins ctid mess newSession held tier)).congr fun other => by
        simp only [List.flatten_cons, List.mem_append]
        tauto

variable (sid)

theorem callSubscribers_subscriptions (session : Session) (sys : System)
    (stored : sys.sessions sid = some session) (inRange : CalledBelow session.subscriptions 100) :
    ∃ sys', callSubscribers plugins ctid sid session mess newSession sys = .ok (nfAccept, sys') ∧
      Subscribed sid sys' fun owner => owner ∈ session.subscriptions ∧
        releasesSession plugins ctid mess newSession owner = false := by
  have held : Subscribed sid sys (· ∈ session.subscriptions) := ⟨session, stored, fun _ => .rfl⟩
  by_cases empty : session.subscriptions.keys = []
  · refine ⟨_, callSubscribers_released plugins ctid sid session mess newSession sys empty,
      held.congr fun owner => ?_⟩
    rw [AList.mem_keys, empty]
    simp
  · refine ⟨_, ?_, (subscribed_runTiers plugins ctid mess newSession
      (priorityWalk session.subscriptions).tiers held).congr fun owner => ?_⟩
    · simp only [callSubscribers, empty, List.length_eq_zero, ↓reduceIte,
        (priorityWalk_normal_iff session.subscriptions).2 inRange]
    · rw [mem_priorityWalk_tiers _ inRange]
      cases releasesSession plugins ctid mess newSession owner <;> simp

/-- The goroutines of `callSubscribers` refine its sequential reading in the subscriptions the
session keeps, whatever the handlers do with it: when each handler returns before its watchdog
fires, asking the join for the release if and only if it does not call `ReleaseSession` itself
and its result asks for it, every interleaving that returns leaves the session with the
subscribers that the tiers, run one after the other, leave in the stored object. -/
theorem callSubscribers_refines_subscriptions (session : Session) (sys : System)
    (stored : sys.sessions sid = some session) (inRange : CalledBelow session.subscriptions 100)
    {s : CallState}
    (reached : Reachable session.subscriptions
      (fun owner => .returns (releasesSession plugins ctid mess newSession owner)) session s)
    (done : s.dispatcher = .returned) :
    ∃ sys' object, callSubscribers plugins ctid sid session mess newSession sys =
        .ok (nfAccept, sys') ∧ sys'.sessions sid = some object ∧
      ∀ owner, owner ∈ object.subscriptions ↔ owner ∈ s.session.subscriptions := by
  obtain ⟨sys', returned, object, stored', kept⟩ :=
    callSubscribers_subscriptions plugins ctid sid mess newSession session sys stored inRange
  refine ⟨sys', object, returned, stored', fun owner => ?_⟩
  rw [kept, callSubscribers_returned_subscriptions reached done, ne_eq, Behaviour.returns.injEq,
    Bool.not_eq_true]

def actingPlugins : Plugins :=
  ⟨twoTiers, fun owner _ _ _ =>
    if owner = "a" then ⟨[.putAttachment "k" "v", .releaseSession], false⟩
    else ⟨[.addSessionEntry "f" (.bool true)], false⟩⟩

/-- With `a`'s own release read as a release request, the goroutines leave the session holding
`b` alone, and so does the sequential run. -/
theorem callSubscribers_refines_subscriptions_acting :
    ∃ s, Reachable twoTiers
        (fun owner => .returns (releasesSession actingPlugins 7 quietMessage false owner))
        (sessionOf twoTiers) s ∧ s.dispatcher = .returned ∧ s.session.subscriptions.keys = ["b"] ∧
      ∃ sys' object, callSubscribers actingPlugins 7 1 (sessionOf twoTiers) quietMessage false
          tieredState = .ok (nfAccept, sys') ∧
        sys'.sessions 1 = some object ∧
        ∀ owner, owner ∈ object.subscriptions ↔ owner ∈ s.session.subscriptions := by
  have observed : (run twoTiers
      (fun owner => .returns (releasesSession actingPlugins 7 quietMessage false owner))
      (CallState.init (sessionOf twoTiers))
      [.dispatcher, .dispatcher, .launch "a", .handlerReturns "a", .takeResult "a", .receive "a",
        .dispatcher, .dispatcher, .launch "b", .handlerReturns "b", .takeResult "b",
        .receive "b", .dispatcher, .dispatcher]).map
      (fun s => (s.dispatcher, s.session.subscriptions.keys)) = some (.returned, ["b"]) := by
    decide
  obtain ⟨s, ran, observed⟩ := Option.map_eq_some'.1 observed
  obtain ⟨done, kept⟩ := Prod.mk.inj observed
  have reached := reachable_of_run ran
  exact ⟨s, reached, done, kept, callSubscribers_refines_subscriptions actingPlugins 7 1
    quietMessage false (sessionOf twoTiers) _ rfl (by decide) reached done⟩

end Acting

end Packetd
