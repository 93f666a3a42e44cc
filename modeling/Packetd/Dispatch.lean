import Packetd.Walk

/-! The goroutines of one `callSubscribers` call: the dispatcher, one task per called subscriber
with its 30-second watchdog, and the handler goroutine each task starts. A run is any
interleaving of their steps; `resultsChannel` is unbuffered and each task's `c` holds one
result. -/

namespace Packetd

/-- What a plugin's handler does with this packet. -/
inductive Behaviour
  /-- Returns `SessionRelease = release` before its watchdog fires. -/
  | returns (release : Bool)
  /-- Its watchdog fires first; `late` is what it returns afterwards, if it ever does. -/
  | overruns (late : Option Bool)
  deriving DecidableEq, Repr

/-- Where the dispatcher thread is in `callSubscribers`. -/
inductive DispatcherPc
  | entry
  | loopHead
  /-- In the join loop, with `left` receives on `resultsChannel` still to make. -/
  | joining (left : Nat)
  | returned
  | panicked
  deriving DecidableEq, Repr

/-- Where the task goroutine `go func(key, val, pri)` of one subscriber is. -/
inductive TaskPc
  | idle
  | spawned
  /-- It has started the handler goroutine and waits in its `select`. -/
  | selecting
  /-- It took `result := <-c` and blocks on `resultsChannel <- result`. -/
  | forwarding (release : Bool)
  /-- The join received its result. -/
  | delivered (release : Bool)
  /-- It took `<-timeoutTimer.C` and is about to send the synthesized result to `c`. -/
  | timedOut
  /-- The synthesized result sits in `c`; the task has ended. -/
  | abandoned
  deriving DecidableEq, Repr

def TaskPc.isDelivered : TaskPc → Bool
  | .delivered _ => true
  | _ => false

inductive HandlerPc
  | notInvoked
  | running
  | returned
  deriving DecidableEq, Repr

/-- The state of one `callSubscribers` call. `channel` is each task's `c`. -/
structure CallState where
  dispatcher : DispatcherPc
  priority : Nat
  subcount : Nat
  task : String → TaskPc
  handler : String → HandlerPc
  channel : String → Option Bool
  session : Session
  writes : List DictWrite

def CallState.init (session : Session) : CallState :=
  ⟨.entry, 0, 0, fun _ => .idle, fun _ => .notInvoked, fun _ => none, session, []⟩

/-- Which goroutine moves, and for the tasks and handlers, whose. -/
inductive Move
  | dispatcher
  | receive (owner : String)
  | launch (owner : String)
  | handlerReturns (owner : String)
  | takeResult (owner : String)
  | timeout (owner : String)
  | synthesize (owner : String)
  deriving DecidableEq, Repr

section Steps

variable (sublist : SubscriptionTable) (behaviour : String → Behaviour)

/-- One step of the dispatcher, other than a receive. -/
def dispatcherStep (s : CallState) : Option CallState :=
  match s.dispatcher with
  | .entry =>
      if sublist.keys.length = 0 then
        some { s with dispatcher := .returned,
                      writes := s.writes ++ [bypassWrite s.session.conntrackID] }
      else some { s with dispatcher := .loopHead }
  | .loopHead =>
      if s.subcount = sublist.keys.length then some { s with dispatcher := .returned }
      else
        let called := tier sublist s.priority
        some { s with dispatcher := .joining called.length,
                      subcount := s.subcount + called.length,
                      task := fun owner => if owner ∈ called then .spawned else s.task owner }
  | .joining 0 =>
      if 100 < s.priority + 1 then
        some { s with dispatcher := .panicked, priority := s.priority + 1 }
      else some { s with dispatcher := .loopHead, priority := s.priority + 1 }
  | _ => none

/-- The join receives `owner`'s result and releases the session for it if asked to. -/
def receiveStep (s : CallState) (owner : String) : Option CallState :=
  match s.dispatcher, s.task owner with
  | .joining (left + 1), .forwarding release =>
      let released := if release then releaseSession s.session owner else (s.session, [])
      some { s with dispatcher := .joining left,
                    task := Function.update s.task owner (.delivered release),
                    session := released.1, writes := s.writes ++ released.2 }
  | _, _ => none

/-- The handler goroutine sends its result to `c`, which must be empty: in time, or, for an
overrunning handler, after the watchdog fired. -/
def handlerReturnsStep (s : CallState) (owner : String) : Option CallState :=
  let finish (release : Bool) : CallState :=
    { s with handler := Function.update s.handler owner .returned,
             channel := Function.update s.channel owner (some release) }
  match s.handler owner, s.channel owner, behaviour owner with
  | .running, none, .returns release => some (finish release)
  | .running, none, .overruns (some release) =>
      if s.task owner = .timedOut ∨ s.task owner = .abandoned then some (finish release) else none
  | _, _, _ => none

def step (s : CallState) : Move → Option CallState
  | .dispatcher => dispatcherStep sublist s
  | .receive owner => receiveStep s owner
  | .launch owner =>
      if s.task owner = .spawned then
        some { s with task := Function.update s.task owner .selecting,
                      handler := Function.update s.handler owner .running }
      else none
  | .handlerReturns owner => handlerReturnsStep behaviour s owner
  | .takeResult owner =>
      match s.task owner, s.channel owner with
      | .selecting, some release =>
          some { s with task := Function.update s.task owner (.forwarding release),
                        channel := Function.update s.channel owner none }
      | _, _ => none
  | .timeout owner =>
      match s.task owner, behaviour owner with
      | .selecting, .overruns _ => some { s with task := Function.update s.task owner .timedOut }
      | _, _ => none
  | .synthesize owner =>
      match s.task owner, s.channel owner with
      | .timedOut, none =>
          some { s with task := Function.update s.task owner .abandoned,
                        channel := Function.update s.channel owner (some true) }
      | _, _ => none

/-- The states some interleaving reaches from the call's entry. -/
inductive Reachable (session : Session) : CallState → Prop
  | init : Reachable session (CallState.init session)
  | step {s s' : CallState} (move : Move) :
      Reachable session s → step sublist behaviour s move = some s' → Reachable session s'

def run : CallState → List Move → Option CallState
  | s, [] => some s
  | s, move :: moves => (step sublist behaviour s move).bind (run · moves)

theorem reachable_run (session : Session) :
    ∀ {s s' : CallState} (moves : List Move), Reachable sublist behaviour session s →
      run sublist behaviour s moves = some s' → Reachable sublist behaviour session s'
  | s, s', [], reached, ran => by
      simp only [run, Option.some.injEq] at ran
      exact ran ▸ reached
  | s, s', move :: moves, reached, ran => by
      simp only [run] at ran
      cases stepped : step sublist behaviour s move with
      | none => simp [stepped] at ran
      | some next =>
          rw [stepped, Option.some_bind] at ran
          exact reachable_run session moves (.step move reached stepped) ran

end Steps

theorem mem_tier (sublist : SubscriptionTable) (owner : String) (priority : Nat) :
    owner ∈ tier sublist priority ↔ sublist.lookup owner = some (priority : Int) := by
  rw [← Option.mem_def, AList.mem_lookup_iff]
  simp only [tier, List.mem_map, List.mem_filter, decide_eq_true_eq]
  constructor
  · rintro ⟨⟨key, value⟩, ⟨member, rfl⟩, rfl⟩
    exact member
  · intro member
    exact ⟨_, ⟨member, rfl⟩, rfl⟩

theorem tier_nodup (sublist : SubscriptionTable) (priority : Nat) :
    (tier sublist priority).Nodup :=
  sublist.keys_nodup.sublist ((List.filter_sublist _).map _)

def Below (sublist : SubscriptionTable) (owner : String) (bound : Nat) : Prop :=
  ∃ priority : Nat, sublist.lookup owner = some (priority : Int) ∧ priority < bound

theorem below_succ_iff (sublist : SubscriptionTable) (owner : String) (bound : Nat) :
    Below sublist owner (bound + 1) ↔ Below sublist owner bound ∨ owner ∈ tier sublist bound := by
  rw [mem_tier]
  constructor
  · rintro ⟨priority, found, lower⟩
    by_cases same : priority = bound
    · exact .inr (same ▸ found)
    · exact .inl ⟨priority, found, by omega⟩
  · rintro (⟨priority, found, lower⟩ | found)
    · exact ⟨priority, found, by omega⟩
    · exact ⟨bound, found, by omega⟩

theorem calledBelow_below (sublist : SubscriptionTable) (bound : Nat)
    (called : CalledBelow sublist bound) (owner : String) (member : owner ∈ sublist) :
    Below sublist owner bound := by
  obtain ⟨priority, found⟩ := Option.isSome_iff_exists.1 (AList.lookup_isSome.2 member)
  obtain ⟨nonneg, lower⟩ := called _ (AList.mem_lookup_iff.1 found)
  dsimp only at nonneg lower
  exact ⟨priority.toNat, by rw [found, Int.toNat_of_nonneg nonneg], by omega⟩

theorem countP_update_of_mem {owners : List String} (unique : owners.Nodup) {owner : String}
    (member : owner ∈ owners) (before after : String → Bool) (awaited : before owner = true)
    (done : after owner = false) (others : ∀ other, other ≠ owner → after other = before other) :
    owners.countP before = owners.countP after + 1 := by
  induction owners with
  | nil => cases member
  | cons head rest ih =>
      rw [List.nodup_cons] at unique
      by_cases same : head = owner
      · subst same
        have agree : rest.countP before = rest.countP after :=
          List.countP_congr fun other mem => by
            rw [others other (fun eq => unique.1 (eq ▸ mem))]
        simp [List.countP_cons, awaited, done, agree]
      · have inRest : owner ∈ rest := (List.mem_cons.1 member).resolve_left (Ne.symm same)
        simp only [List.countP_cons, ih unique.2 inRest, others head same]
        omega

/-- The tiers below the frontier have been spawned: at the loop head the tier `priority` comes
next, in the join it is the one being joined. -/
def frontier (s : CallState) : Nat :=
  match s.dispatcher with
  | .joining _ => s.priority + 1
  | _ => s.priority

section Invariant

variable (sublist : SubscriptionTable) (behaviour : String → Behaviour)

/-- The dictionary writes of a call so far: for an empty snapshot, the `bypass_packetd` the
dispatcher writes on leaving its entry; otherwise the one the release that empties a non-empty
session makes. -/
def expectedWrites (start : Session) (s : CallState) : List DictWrite :=
  if sublist.keys = [] then
    if s.dispatcher = .entry then [] else [bypassWrite start.conntrackID]
  else if start.subscriptions.keys ≠ [] ∧ s.session.subscriptions.keys = [] then
    [bypassWrite start.conntrackID]
  else []

theorem expectedWrites_congr {start : Session} {s s' : CallState}
    (entry : s'.dispatcher = .entry ↔ s.dispatcher = .entry) (session : s'.session = s.session) :
    expectedWrites sublist start s = expectedWrites sublist start s' := by
  simp only [expectedWrites, entry, session]

structure CallInv (start : Session) (s : CallState) : Prop where
  spawned : ∀ owner, s.task owner ≠ .idle ↔ Below sublist owner (frontier s)
  subcount : s.subcount = countBelow sublist (frontier s)
  earlier : ∀ owner, Below sublist owner s.priority → (s.task owner).isDelivered
  left : ∀ left, s.dispatcher = .joining left →
    left = (tier sublist s.priority).countP fun owner => !(s.task owner).isDelivered
  results : ∀ owner release,
    s.task owner = .forwarding release ∨ s.task owner = .delivered release →
      behaviour owner = .returns release ∧ s.handler owner = .returned
  channel : ∀ owner release, s.channel owner = some release → s.task owner = .selecting →
    behaviour owner = .returns release ∧ s.handler owner = .returned
  filled : ∀ owner, s.channel owner ≠ none →
    s.handler owner = .returned ∨ s.task owner = .abandoned
  invoked : ∀ owner, s.handler owner ≠ .notInvoked →
    s.task owner ≠ .idle ∧ s.task owner ≠ .spawned
  subscriptions : ∀ owner, owner ∈ s.session.subscriptions ↔
    owner ∈ start.subscriptions ∧ ¬ ((s.task owner).isDelivered ∧ behaviour owner = .returns true)
  conntrack : s.session.conntrackID = start.conntrackID
  writes : s.writes = expectedWrites sublist start s
  returned : s.dispatcher = .returned → CalledBelow sublist s.priority
  entry : s.dispatcher = .entry → s.priority = 0

variable {start : Session}

theorem session_keys_nil {s : CallState} (inv : CallInv sublist behaviour start s)
    (empty : start.subscriptions.keys = []) : s.session.subscriptions.keys = [] :=
  List.eq_nil_iff_forall_not_mem.2 fun owner member => by
    have := ((inv.subscriptions owner).1 (AList.mem_keys.2 member)).1
    rw [AList.mem_keys, empty] at this
    exact List.not_mem_nil _ this

theorem callInv_init (session : Session) :
    CallInv sublist behaviour session (CallState.init session) where
  spawned owner := by simp [CallState.init, frontier, Below]
  subcount := by simp [CallState.init, frontier]
  earlier owner := by simp [CallState.init, Below]
  left left := by simp [CallState.init]
  results owner release := by simp [CallState.init]
  channel owner release := by simp [CallState.init]
  filled owner := by simp [CallState.init]
  invoked owner := by simp [CallState.init]
  subscriptions owner := by simp [CallState.init, TaskPc.isDelivered]
  conntrack := rfl
  writes := by
    unfold expectedWrites
    split_ifs with empty entry both <;> first | rfl | exact absurd both.2 both.1 | cases entry rfl
  returned := by simp [CallState.init]
  entry _ := rfl

structure LocalMove (s s' : CallState) : Prop where
  dispatcher : s'.dispatcher = s.dispatcher
  priority : s'.priority = s.priority
  subcount : s'.subcount = s.subcount
  session : s'.session = s.session
  writes : s'.writes = s.writes
  idle : ∀ owner, s'.task owner = .idle ↔ s.task owner = .idle
  delivered : ∀ owner, (s'.task owner).isDelivered = (s.task owner).isDelivered

theorem callInv_of_localMove {s s' : CallState} (inv : CallInv sublist behaviour start s)
    (moved : LocalMove s s')
    (results : ∀ owner release,
      s'.task owner = .forwarding release ∨ s'.task owner = .delivered release →
        behaviour owner = .returns release ∧ s'.handler owner = .returned)
    (channel : ∀ owner release, s'.channel owner = some release → s'.task owner = .selecting →
      behaviour owner = .returns release ∧ s'.handler owner = .returned)
    (filled : ∀ owner, s'.channel owner ≠ none →
      s'.handler owner = .returned ∨ s'.task owner = .abandoned)
    (invoked : ∀ owner, s'.handler owner ≠ .notInvoked →
      s'.task owner ≠ .idle ∧ s'.task owner ≠ .spawned) :
    CallInv sublist behaviour start s' := by
  have frontierEq : frontier s' = frontier s := by
    simp only [frontier, moved.dispatcher, moved.priority]
  refine ⟨fun owner => ?_, ?_, fun owner below => ?_, fun left joining => ?_, results, channel,
    filled, invoked, fun owner => ?_, by rw [moved.session]; exact inv.conntrack, ?_,
    fun returned => ?_, fun entry => ?_⟩
  · rw [frontierEq, ← inv.spawned owner, ne_eq, ne_eq, moved.idle]
  · rw [moved.subcount, frontierEq, inv.subcount]
  · rw [moved.delivered]
    exact inv.earlier owner (moved.priority ▸ below)
  · rw [moved.priority, inv.left left (moved.dispatcher ▸ joining)]
    exact List.countP_congr fun other _ => by rw [moved.delivered]
  · rw [moved.session, moved.delivered]
    exact inv.subscriptions owner
  · rw [moved.writes, inv.writes,
      expectedWrites_congr sublist (by rw [moved.dispatcher]) moved.session]
  · rw [moved.priority]
    exact inv.returned (moved.dispatcher ▸ returned)
  · rw [moved.priority]
    exact inv.entry (moved.dispatcher ▸ entry)

theorem localMove_update {s : CallState} {owner : String} {before after : TaskPc}
    (current : s.task owner = before) (beforeIdle : before ≠ .idle) (afterIdle : after ≠ .idle)
    (beforeDelivered : before.isDelivered = false) (afterDelivered : after.isDelivered = false)
    (handler : String → HandlerPc) (channel : String → Option Bool) :
    LocalMove s { s with task := Function.update s.task owner after, handler, channel } := by
  refine ⟨rfl, rfl, rfl, rfl, rfl, fun other => ?_, fun other => ?_⟩
  · by_cases same : other = owner
    · subst same; simp [current, beforeIdle, afterIdle]
    · simp [Function.update_noteq same]
  · by_cases same : other = owner
    · subst same; simp [current, beforeDelivered, afterDelivered]
    · simp [Function.update_noteq same]

theorem callInv_of_ownerMove {s s' : CallState} {owner : String}
    (inv : CallInv sublist behaviour start s) (moved : LocalMove s s')
    (others : ∀ other, other ≠ owner → s'.task other = s.task other ∧
      s'.handler other = s.handler other ∧ s'.channel other = s.channel other)
    (results : ∀ release, s'.task owner = .forwarding release ∨ s'.task owner = .delivered release →
      behaviour owner = .returns release ∧ s'.handler owner = .returned)
    (channel : ∀ release, s'.channel owner = some release → s'.task owner = .selecting →
      behaviour owner = .returns release ∧ s'.handler owner = .returned)
    (filled : s'.channel owner ≠ none → s'.handler owner = .returned ∨ s'.task owner = .abandoned)
    (invoked : s'.handler owner ≠ .notInvoked →
      s'.task owner ≠ .idle ∧ s'.task owner ≠ .spawned) :
    CallInv sublist behaviour start s' := by
  refine callInv_of_localMove sublist behaviour inv moved (fun other => ?_) (fun other => ?_)
    (fun other => ?_) (fun other => ?_) <;> by_cases same : other = owner
  · exact same ▸ results
  · obtain ⟨task, handler, -⟩ := others other same
    rw [task, handler]
    exact inv.results other
  · exact same ▸ channel
  · obtain ⟨task, handler, chan⟩ := others other same
    rw [task, handler, chan]
    exact inv.channel other
  · exact same ▸ filled
  · obtain ⟨task, handler, chan⟩ := others other same
    rw [task, handler, chan]
    exact inv.filled other
  · exact same ▸ invoked
  · obtain ⟨task, handler, -⟩ := others other same
    rw [task, handler]
    exact inv.invoked other

theorem callInv_launch {s s' : CallState} {owner : String} (inv : CallInv sublist behaviour start s)
    (stepped : step sublist behaviour s (.launch owner) = some s') :
    CallInv sublist behaviour start s' := by
  simp only [step] at stepped
  split at stepped
  · next ready =>
      cases stepped
      have fresh : s.handler owner = .notInvoked := by
        by_contra started
        exact (inv.invoked owner started).2 ready
      have empty : s.channel owner = none := by
        by_contra full
        rcases inv.filled owner full with done | done <;> simp [fresh, ready] at done
      exact callInv_of_ownerMove sublist behaviour inv
        (localMove_update ready (by simp) (by simp) (by rfl) (by rfl) _ _)
        (fun _ same => ⟨Function.update_noteq same _ _, Function.update_noteq same _ _, rfl⟩)
        (by simp) (by simp [empty]) (by simp [empty]) (by simp)
  · cases stepped

theorem callInv_handlerReturns {s s' : CallState} {owner : String}
    (inv : CallInv sublist behaviour start s)
    (stepped : step sublist behaviour s (.handlerReturns owner) = some s') :
    CallInv sublist behaviour start s' := by
  simp only [step, handlerReturnsStep] at stepped
  have finish : ∀ release, s.handler owner = .running →
      (s.task owner = .selecting → behaviour owner = .returns release) →
      s' = { s with handler := Function.update s.handler owner .returned,
                    channel := Function.update s.channel owner (some release) } →
      CallInv sublist behaviour start s' := by
    rintro release running inTime rfl
    have started := inv.invoked owner (by rw [running]; nofun)
    refine callInv_of_ownerMove sublist behaviour inv
      ⟨rfl, rfl, rfl, rfl, rfl, fun _ => Iff.rfl, fun _ => rfl⟩
      (fun _ same => ⟨rfl, Function.update_noteq same _ _, Function.update_noteq same _ _⟩)
      (fun _ forwarded => nomatch running.symm.trans (inv.results owner _ forwarded).2)
      ?_ (by simp) (fun _ => started)
    simp only [Function.update_same, Option.some.injEq]
    rintro _ rfl selecting
    exact ⟨inTime selecting, trivial⟩
  split at stepped
  · next running _ returns =>
      exact finish _ running (fun _ => returns) (Option.some.inj stepped).symm
  · next running _ overruns =>
      split at stepped
      · next late =>
          refine finish _ running (fun selecting => ?_) (Option.some.inj stepped).symm
          rcases late with late | late <;> rw [selecting] at late <;> cases late
      · cases stepped
  · cases stepped

theorem callInv_takeResult {s s' : CallState} {owner : String}
    (inv : CallInv sublist behaviour start s)
    (stepped : step sublist behaviour s (.takeResult owner) = some s') :
    CallInv sublist behaviour start s' := by
  simp only [step] at stepped
  split at stepped
  · next release selecting full =>
      cases stepped
      refine callInv_of_ownerMove sublist behaviour inv
        (localMove_update selecting (by simp) (by simp) (by rfl) (by rfl) _ _)
        (fun _ same => ⟨Function.update_noteq same _ _, rfl, Function.update_noteq same _ _⟩)
        ?_ (by simp) (by simp) (by simp)
      simp only [Function.update_same, TaskPc.forwarding.injEq, reduceCtorEq, or_false]
      rintro _ rfl
      exact inv.channel owner release full selecting
  · cases stepped

theorem callInv_timeout {s s' : CallState} {owner : String}
    (inv : CallInv sublist behaviour start s)
    (stepped : step sublist behaviour s (.timeout owner) = some s') :
    CallInv sublist behaviour start s' := by
  simp only [step] at stepped
  split at stepped
  · next selecting _ =>
      cases stepped
      refine callInv_of_ownerMove sublist behaviour inv
        (localMove_update selecting (by simp) (by simp) (by rfl) (by rfl) _ _)
        (fun _ same => ⟨Function.update_noteq same _ _, rfl, rfl⟩)
        (by simp) (by simp) (fun full => ?_) (by simp)
      rcases inv.filled owner full with done | done
      · exact .inl done
      · rw [selecting] at done; cases done
  · cases stepped

theorem callInv_synthesize {s s' : CallState} {owner : String}
    (inv : CallInv sublist behaviour start s)
    (stepped : step sublist behaviour s (.synthesize owner) = some s') :
    CallInv sublist behaviour start s' := by
  simp only [step] at stepped
  split at stepped
  · next waiting _ =>
      cases stepped
      exact callInv_of_ownerMove sublist behaviour inv
        (localMove_update waiting (by simp) (by simp) (by rfl) (by rfl) _ _)
        (fun _ same => ⟨Function.update_noteq same _ _, rfl, Function.update_noteq same _ _⟩)
        (by simp) (by simp) (by simp) (by simp)
  · cases stepped

theorem callInv_receive {s s' : CallState} {owner : String}
    (inv : CallInv sublist behaviour start s)
    (stepped : step sublist behaviour s (.receive owner) = some s') :
    CallInv sublist behaviour start s' := by
  simp only [step, receiveStep] at stepped
  split at stepped
  · next left release joining forwarding =>
      cases stepped
      have spawnedOwner := (inv.spawned owner).1 (by rw [forwarding]; nofun)
      rw [frontier, joining] at spawnedOwner
      have notEarlier : ¬ Below sublist owner s.priority := fun below => by
        have := inv.earlier owner below
        rw [forwarding] at this
        cases this
      have inTier :=
        ((below_succ_iff sublist owner s.priority).1 spawnedOwner).resolve_left notEarlier
      have sent := inv.results owner release (.inl forwarding)
      have kept : ∀ other, other ≠ owner → (other ∈ (if release then releaseSession s.session owner
          else (s.session, [])).1.subscriptions ↔ other ∈ s.session.subscriptions) := by
        intro other ne
        split
        · rw [releaseSession_mem]
          exact and_iff_right ne
        · rfl
      constructor
      · intro other
        by_cases same : other = owner
        · subst same; simpa [frontier, joining] using spawnedOwner
        · simpa [Function.update_noteq same, frontier, joining] using inv.spawned other
      · simpa [frontier, joining] using inv.subcount
      · intro other below
        by_cases same : other = owner
        · subst same; simp [TaskPc.isDelivered]
        · simpa [Function.update_noteq same] using inv.earlier other below
      · intro left' joining'
        cases joining'
        dsimp only
        have before := inv.left (left + 1) joining
        have drop := countP_update_of_mem (tier_nodup sublist s.priority) inTier
          (fun other => !(s.task other).isDelivered)
          (fun other =>
            !(Function.update s.task owner (TaskPc.delivered release) other).isDelivered)
          (by simp [forwarding, TaskPc.isDelivered]) (by simp [TaskPc.isDelivered])
          (fun other same => by simp [Function.update_noteq same])
        omega
      · intro other result
        by_cases same : other = owner
        · subst same
          simp only [Function.update_same, reduceCtorEq, TaskPc.delivered.injEq, false_or]
          rintro rfl
          exact sent
        · simpa [Function.update_noteq same] using inv.results other result
      · intro other result
        by_cases same : other = owner
        · subst same; simp
        · simpa [Function.update_noteq same] using inv.channel other result
      · intro other full
        by_cases same : other = owner
        · subst same
          exact .inl sent.2
        · simpa [Function.update_noteq same] using inv.filled other full
      · intro other
        by_cases same : other = owner
        · subst same; simp
        · simpa [Function.update_noteq same] using inv.invoked other
      · intro other
        by_cases same : other = owner
        · subst same
          have was := inv.subscriptions other
          rw [forwarding] at was
          cases release with
          | true => simp [releaseSession_mem, TaskPc.isDelivered, sent.1]
          | false => simpa [TaskPc.isDelivered, sent.1] using was
        · dsimp only
          rw [kept other same, Function.update_noteq same]
          exact inv.subscriptions other
      · dsimp only
        split
        · rw [releaseSession_conntrackID]
          exact inv.conntrack
        · exact inv.conntrack
      · have nonempty : sublist.keys ≠ [] := fun empty => by
          obtain ⟨priority, found, -⟩ := spawnedOwner
          rw [AList.lookup_eq_none.2 (by rw [AList.mem_keys, empty]; exact List.not_mem_nil _)]
            at found
          cases found
        have written := inv.writes
        dsimp only
        unfold expectedWrites at written ⊢
        rw [if_neg nonempty] at written ⊢
        rw [written]
        cases release with
        | false => exact List.append_nil _
        | true =>
            rw [if_pos rfl, releaseSession_snd, releaseSession_keys, inv.conntrack]
            by_cases startEmpty : start.subscriptions.keys = []
            · simp [startEmpty, session_keys_nil sublist behaviour inv startEmpty]
            · by_cases sessionEmpty : s.session.subscriptions.keys = [] <;>
                simp [startEmpty, sessionEmpty]
      all_goals nofun
  · cases stepped

theorem frontier_of_not_joining {s : CallState} (outside : ∀ left, s.dispatcher ≠ .joining left) :
    frontier s = s.priority := by
  unfold frontier
  split
  · next left joining => exact absurd joining (outside left)
  · rfl

theorem callInv_settle {s : CallState} (inv : CallInv sublist behaviour start s)
    (next : DispatcherPc) (writes : List DictWrite)
    (before : ∀ left, s.dispatcher ≠ .joining left) (after : ∀ left, next ≠ .joining left)
    (returned : next = .returned → CalledBelow sublist s.priority)
    (entry : next = .entry → s.priority = 0)
    (written : writes = expectedWrites sublist start { s with dispatcher := next, writes }) :
    CallInv sublist behaviour start { s with dispatcher := next, writes } := by
  have frontierEq : frontier { s with dispatcher := next, writes } = frontier s :=
    (frontier_of_not_joining after).trans (frontier_of_not_joining before).symm
  refine ⟨fun owner => frontierEq ▸ inv.spawned owner, frontierEq ▸ inv.subcount, inv.earlier,
    fun left joining => absurd joining (after left), inv.results, inv.channel, inv.filled,
    inv.invoked, inv.subscriptions, inv.conntrack, written, returned, entry⟩

theorem callInv_spawn {s : CallState} (inv : CallInv sublist behaviour start s)
    (atHead : s.dispatcher = .loopHead) :
    CallInv sublist behaviour start { s with
      dispatcher := .joining (tier sublist s.priority).length,
      subcount := s.subcount + (tier sublist s.priority).length,
      task := fun owner =>
        if owner ∈ tier sublist s.priority then .spawned else s.task owner } := by
  have frontierEq : frontier s = s.priority := by simp [frontier, atHead]
  have idle : ∀ owner ∈ tier sublist s.priority, s.task owner = .idle := by
    intro owner member
    by_contra busy
    obtain ⟨priority, found, lower⟩ := frontierEq ▸ (inv.spawned owner).1 busy
    rw [(mem_tier sublist owner s.priority).1 member, Option.some.injEq] at found
    omega
  have quiet : ∀ owner ∈ tier sublist s.priority,
      s.handler owner = .notInvoked ∧ s.channel owner = none := by
    intro owner member
    have fresh : s.handler owner = .notInvoked := by
      by_contra started
      exact (inv.invoked owner started).1 (idle owner member)
    refine ⟨fresh, ?_⟩
    by_contra full
    rcases inv.filled owner full with done | done
    · rw [fresh] at done; cases done
    · rw [idle owner member] at done; cases done
  constructor
  · intro owner
    dsimp only [frontier]
    rw [below_succ_iff]
    by_cases member : owner ∈ tier sublist s.priority
    · simp [member]
    · simp only [member, if_false, or_false]
      rw [inv.spawned owner, frontierEq]
  · dsimp only [frontier]
    rw [inv.subcount, frontierEq, countBelow_succ]
  · intro owner below
    dsimp only at below ⊢
    split
    · next member =>
        obtain ⟨priority, found, lower⟩ := below
        rw [(mem_tier sublist owner s.priority).1 member, Option.some.injEq] at found
        omega
    · exact inv.earlier owner below
  · intro left joining
    cases joining
    refine (List.countP_eq_length.2 fun owner member => ?_).symm
    simp [member, TaskPc.isDelivered]
  · intro owner release
    dsimp only
    split
    · simp
    · exact inv.results owner release
  · intro owner release
    dsimp only
    split
    · simp
    · exact inv.channel owner release
  · intro owner full
    dsimp only at full ⊢
    split
    · next member => exact absurd (quiet owner member).2 full
    · exact inv.filled owner full
  · intro owner started
    dsimp only at started ⊢
    split
    · next member => exact absurd (quiet owner member).1 started
    · exact inv.invoked owner started
  · intro owner
    dsimp only
    rw [inv.subscriptions owner]
    split
    · next member => simp [idle owner member, TaskPc.isDelivered]
    · rfl
  · exact inv.conntrack
  · exact inv.writes.trans (expectedWrites_congr sublist (by simp [atHead]) rfl)
  all_goals nofun

theorem callInv_advance {s : CallState} (inv : CallInv sublist behaviour start s)
    (joined : s.dispatcher = .joining 0) (next : DispatcherPc)
    (notJoining : ∀ left, next ≠ .joining left) (notReturned : next ≠ .returned)
    (notEntry : next ≠ .entry) :
    CallInv sublist behaviour start { s with dispatcher := next, priority := s.priority + 1 } := by
  have frontierEq : frontier { s with dispatcher := next, priority := s.priority + 1 } =
      frontier s := by
    rw [frontier_of_not_joining notJoining, frontier, joined]
  refine ⟨fun owner => frontierEq ▸ inv.spawned owner, frontierEq ▸ inv.subcount,
    fun owner below => ?_, fun left joining => absurd joining (notJoining left), inv.results,
    inv.channel, inv.filled, inv.invoked, inv.subscriptions, inv.conntrack,
    inv.writes.trans (expectedWrites_congr sublist (by simp [joined, notEntry]) rfl),
    fun returned => absurd returned notReturned,
    fun entry => absurd entry notEntry⟩
  rcases (below_succ_iff sublist owner s.priority).1 below with earlier | member
  · exact inv.earlier owner earlier
  · have none := inv.left 0 joined
    simpa using List.countP_eq_zero.1 none.symm owner member

theorem callInv_dispatcher {s s' : CallState} (inv : CallInv sublist behaviour start s)
    (stepped : step sublist behaviour s .dispatcher = some s') :
    CallInv sublist behaviour start s' := by
  simp only [step, dispatcherStep] at stepped
  split at stepped
  · next atEntry =>
      split at stepped
      · next empty =>
          cases stepped
          have keys := List.eq_nil_of_length_eq_zero empty
          refine callInv_settle sublist behaviour inv _ _ (by simp [atEntry]) nofun
            (fun _ entry member => ?_) nofun ?_
          · have : sublist.entries = [] := by simpa [AList.keys, List.keys] using keys
            simp [this] at member
          · rw [inv.writes, inv.conntrack]
            simp [expectedWrites, keys, atEntry]
      · next nonempty =>
          cases stepped
          refine callInv_settle sublist behaviour inv _ s.writes (by simp [atEntry]) nofun nofun
            (fun _ => inv.entry atEntry) ?_
          rw [inv.writes]
          simp [expectedWrites, List.length_eq_zero.not.1 nonempty]
  · next atHead =>
      split at stepped
      · next finished =>
          cases stepped
          refine callInv_settle sublist behaviour inv _ s.writes (by simp [atHead]) nofun
            (fun _ => ?_) nofun
            (inv.writes.trans (expectedWrites_congr sublist (by simp [atHead]) rfl))
          rw [← countBelow_eq_length_iff, ← finished, inv.subcount, frontier, atHead]
      · cases stepped
        exact callInv_spawn sublist behaviour inv atHead
  · next joined =>
      split at stepped <;> cases stepped
      · exact callInv_advance sublist behaviour inv joined _ nofun nofun nofun
      · exact callInv_advance sublist behaviour inv joined _ nofun nofun nofun
  · cases stepped

theorem callInv_step {s s' : CallState} {move : Move} (inv : CallInv sublist behaviour start s)
    (stepped : step sublist behaviour s move = some s') : CallInv sublist behaviour start s' := by
  cases move with
  | dispatcher => exact callInv_dispatcher sublist behaviour inv stepped
  | receive owner => exact callInv_receive sublist behaviour inv stepped
  | launch owner => exact callInv_launch sublist behaviour inv stepped
  | handlerReturns owner => exact callInv_handlerReturns sublist behaviour inv stepped
  | takeResult owner => exact callInv_takeResult sublist behaviour inv stepped
  | timeout owner => exact callInv_timeout sublist behaviour inv stepped
  | synthesize owner => exact callInv_synthesize sublist behaviour inv stepped

theorem reachable_callInv {session : Session} {s : CallState}
    (reached : Reachable sublist behaviour session s) : CallInv sublist behaviour session s := by
  induction reached with
  | init => exact callInv_init sublist behaviour session
  | step move _ stepped ih => exact callInv_step sublist behaviour ih stepped

end Invariant

section Results

variable {sublist : SubscriptionTable} {behaviour : String → Behaviour}

theorem CallInv.released {start : Session} {s : CallState}
    (inv : CallInv sublist behaviour start s) (owner : String)
    (delivered : s.task owner = .delivered true) : owner ∉ s.session.subscriptions := fun member =>
  ((inv.subscriptions owner).1 member).2
    ⟨by rw [delivered]; rfl, (inv.results owner true (.inr delivered)).1⟩

theorem reachable_of_run {session : Session} {moves : List Move} {s : CallState}
    (ran : run sublist behaviour (CallState.init session) moves = some s) :
    Reachable sublist behaviour session s :=
  reachable_run sublist behaviour session moves .init ran

theorem reachable_step_of_run {session : Session} {moves : List Move} {move : Move}
    {s' : CallState}
    (ran : (run sublist behaviour (CallState.init session) moves).bind
      (step sublist behaviour · move) = some s') :
    ∃ s, Reachable sublist behaviour session s ∧ step sublist behaviour s move = some s' := by
  cases reached : run sublist behaviour (CallState.init session) moves with
  | none => simp [reached] at ran
  | some s =>
      rw [reached, Option.some_bind] at ran
      exact ⟨s, reachable_of_run reached, ran⟩

theorem callSubscribers_returned {session : Session} {s : CallState}
    (reached : Reachable sublist behaviour session s) (done : s.dispatcher = .returned) :
    ∀ owner ∈ sublist, ∃ release, behaviour owner = .returns release ∧
      s.task owner = .delivered release ∧ s.handler owner = .returned ∧
      (release = true → owner ∉ s.session.subscriptions) := by
  have inv := reachable_callInv sublist behaviour reached
  intro owner member
  have delivered := inv.earlier owner
    (calledBelow_below sublist s.priority (inv.returned done) owner member)
  cases result : s.task owner with
  | delivered release =>
      obtain ⟨returns, returned⟩ := inv.results owner release (.inr result)
      exact ⟨release, returns, rfl, returned, fun asked => inv.released owner (asked ▸ result)⟩
  | _ => simp [result, TaskPc.isDelivered] at delivered

theorem callSubscribers_returned_subscriptions {session : Session} {s : CallState}
    (reached : Reachable session.subscriptions behaviour session s)
    (done : s.dispatcher = .returned) (owner : String) :
    owner ∈ s.session.subscriptions ↔
      owner ∈ session.subscriptions ∧ behaviour owner ≠ .returns true := by
  rw [(reachable_callInv _ behaviour reached).subscriptions owner]
  by_cases member : owner ∈ session.subscriptions
  · obtain ⟨release, -, delivered, -⟩ := callSubscribers_returned reached done owner member
    simp [member, delivered, TaskPc.isDelivered]
  · simp [member]

theorem callSubscribers_returned_writes {session : Session} {s : CallState}
    (reached : Reachable session.subscriptions behaviour session s)
    (done : s.dispatcher = .returned) :
    s.writes =
      if s.session.subscriptions.keys = [] then [bypassWrite session.conntrackID] else [] := by
  have inv := reachable_callInv _ behaviour reached
  rw [inv.writes]
  by_cases empty : session.subscriptions.keys = []
  · simp [expectedWrites, empty, session_keys_nil _ behaviour inv empty, done]
  · simp [expectedWrites, empty]

theorem untouched_of_not_mem {session : Session} {s : CallState}
    (reached : Reachable sublist behaviour session s) {owner : String} (absent : owner ∉ sublist) :
    s.task owner = .idle ∧ s.handler owner = .notInvoked ∧ s.channel owner = none := by
  have inv := reachable_callInv sublist behaviour reached
  have idle : s.task owner = .idle := by
    by_contra busy
    obtain ⟨priority, found, -⟩ := (inv.spawned owner).1 busy
    rw [AList.lookup_eq_none.2 absent] at found
    cases found
  have fresh : s.handler owner = .notInvoked := by
    by_contra started
    exact (inv.invoked owner started).1 idle
  refine ⟨idle, fresh, ?_⟩
  by_contra full
  rcases inv.filled owner full with done | done
  · rw [fresh] at done; cases done
  · rw [idle] at done; cases done

def geoipOnly : SubscriptionTable := List.toAList [⟨"geoip", 0⟩]

def neverReturns : String → Behaviour := fun _ => .overruns none

def timeoutTrace : List Move :=
  [.dispatcher, .dispatcher, .launch "geoip", .timeout "geoip", .synthesize "geoip"]

/-- With one subscriber whose handler overruns, the watchdog's result goes to the task's own
channel and never to the join: the dispatcher reaches a state where no goroutine can move, and
no interleaving returns. -/
theorem callSubscribers_stuck_after_timeout (session : Session) :
    (∃ s, Reachable geoipOnly neverReturns session s ∧ s.dispatcher = .joining 1 ∧
        ∀ move, step geoipOnly neverReturns s move = none) ∧
      ¬ ∃ s, Reachable geoipOnly neverReturns session s ∧ s.dispatcher = .returned := by
  constructor
  · have observed : (run geoipOnly neverReturns (CallState.init session) timeoutTrace).map
        (fun s => (s.dispatcher, s.task "geoip", s.handler "geoip", s.channel "geoip")) =
        some (.joining 1, .abandoned, .running, some true) := rfl
    cases ran : run geoipOnly neverReturns (CallState.init session) timeoutTrace with
    | none => rw [ran] at observed; cases observed
    | some s =>
        rw [ran] at observed
        simp only [Option.map_some', Option.some.injEq, Prod.mk.injEq] at observed
        obtain ⟨dispatcherAt, taskAt, handlerAt, channelAt⟩ := observed
        have reached := reachable_of_run ran
        refine ⟨s, reached, dispatcherAt, fun move => ?_⟩
        have others : ∀ owner, owner ≠ "geoip" →
            s.task owner = .idle ∧ s.handler owner = .notInvoked ∧ s.channel owner = none :=
          fun owner other => untouched_of_not_mem reached (by
            rw [AList.mem_keys, show geoipOnly.keys = ["geoip"] from rfl]
            simpa using other)
        cases move with
        | dispatcher => simp [step, dispatcherStep, dispatcherAt]
        | receive owner =>
            by_cases same : owner = "geoip"
            · simp [step, receiveStep, dispatcherAt, same, taskAt]
            · simp [step, receiveStep, dispatcherAt, (others owner same).1]
        | launch owner =>
            by_cases same : owner = "geoip"
            · simp [step, same, taskAt]
            · simp [step, (others owner same).1]
        | handlerReturns owner =>
            by_cases same : owner = "geoip"
            · simp [step, handlerReturnsStep, same, handlerAt, channelAt]
            · simp [step, handlerReturnsStep, (others owner same).2.1]
        | takeResult owner =>
            by_cases same : owner = "geoip"
            · simp [step, same, taskAt]
            · simp [step, (others owner same).1]
        | timeout owner =>
            by_cases same : owner = "geoip"
            · simp [step, same, taskAt]
            · simp [step, (others owner same).1]
        | synthesize owner =>
            by_cases same : owner = "geoip"
            · simp [step, same, taskAt]
            · simp [step, (others owner same).1]
  · rintro ⟨s, reached, done⟩
    obtain ⟨release, returns, -⟩ := callSubscribers_returned reached done "geoip" (by decide)
    cases returns

/-- A handler is started only once every subscriber of a lower, non-negative priority has had
its own result received by the join and the join's release for it has completed. Read from the
other side: no subscriber above priority `m` starts before the one at `m` has returned. -/
theorem handler_invoked_after_lower_tiers {session : Session} {s s' : CallState} {owner : String}
    (reached : Reachable sublist behaviour session s)
    (launched : step sublist behaviour s (.launch owner) = some s') :
    ∃ n : Nat, sublist.lookup owner = some (n : Int) ∧
      ∀ other (m : Nat), sublist.lookup other = some (m : Int) → m < n →
        ∃ release, behaviour other = .returns release ∧ s.task other = .delivered release ∧
          s.handler other = .returned ∧ (release = true → other ∉ s.session.subscriptions) := by
  have inv := reachable_callInv sublist behaviour reached
  have ready : s.task owner = .spawned := by
    simp only [step] at launched
    split at launched
    · assumption
    · cases launched
  obtain ⟨n, found, below⟩ := (inv.spawned owner).1 (by rw [ready]; nofun)
  have notEarlier : ¬ n < s.priority := fun lower => by
    have := inv.earlier owner ⟨n, found, lower⟩
    rw [ready] at this
    cases this
  have atFrontier : frontier s ≤ s.priority + 1 := by
    unfold frontier; split <;> omega
  refine ⟨n, found, fun other m otherFound lower => ?_⟩
  have delivered := inv.earlier other ⟨m, otherFound, by omega⟩
  cases result : s.task other with
  | delivered release =>
      obtain ⟨returns, returned⟩ := inv.results other release (.inr result)
      exact ⟨release, returns, rfl, returned, fun asked => inv.released other (asked ▸ result)⟩
  | _ => simp [result, TaskPc.isDelivered] at delivered

def sessionOf (subscriptions : SubscriptionTable) : Session :=
  ⟨1, 7, 0, 0, 0, 0, 0, ⟨6, .v4 0x0a000005, 54321, .v4 0x5db8d822, 443⟩, 2, false, 2, 0, 0, 0,
    subscriptions, []⟩

def alwaysReleases : String → Behaviour := fun _ => .returns true

def twoTiers : SubscriptionTable := List.toAList [⟨"a", 0⟩, ⟨"b", 1⟩]

theorem handler_invoked_after_lower_tiers_twoTiers :
    ∃ s s', Reachable twoTiers alwaysReleases (sessionOf twoTiers) s ∧
      step twoTiers alwaysReleases s (.launch "b") = some s' ∧
      ∃ n : Nat, twoTiers.lookup "b" = some (n : Int) ∧
        ∀ other (m : Nat), twoTiers.lookup other = some (m : Int) → m < n →
          ∃ release, alwaysReleases other = .returns release ∧
            s.task other = .delivered release ∧ s.handler other = .returned ∧
            (release = true → other ∉ s.session.subscriptions) := by
  obtain ⟨s', ran⟩ := Option.isSome_iff_exists.1 (by decide :
    ((run twoTiers alwaysReleases (CallState.init (sessionOf twoTiers))
      [.dispatcher, .dispatcher, .launch "a", .handlerReturns "a", .takeResult "a", .receive "a",
        .dispatcher, .dispatcher]).bind (step twoTiers alwaysReleases · (.launch "b"))).isSome)
  obtain ⟨s, reached, launched⟩ := reachable_step_of_run ran
  exact ⟨s, s', reached, launched, handler_invoked_after_lower_tiers reached launched⟩

end Results

end Packetd
