import Packetd.Basic

/-! Session objects and `ReleaseSession`. A sequence of releases leaves the subscriptions minus
the released owners in any order, and writes `bypass_packetd=true` once, when the last owner
goes. -/

namespace Packetd

/-- A session's live subscriptions, the Go map from plugin name to `SubscriptionHolder`. Only
the holder's priority is kept: its handler is the one the plugin registered under that name. -/
abbrev SubscriptionTable := AList (fun _ : String => Int)

/-- The fields of a dispatcher `Session` that the modelled code reads or writes. -/
structure Session where
  sessionID : Nat
  conntrackID : UInt32
  creationTime : Nat
  packetCount : Nat
  byteCount : Nat
  eventCount : Nat
  lastActivity : Nat
  clientSideTuple : Tuple
  family : UInt8
  conntrackConfirmed : Bool
  clientInterfaceID : UInt8
  clientInterfaceType : UInt8
  serverInterfaceID : UInt8
  serverInterfaceType : UInt8
  subscriptions : SubscriptionTable
  attachments : List (String × String)

/-- `ReleaseSession`, one call under the session's lock: the session afterwards and the
dictionary writes the call made. -/
def releaseSession (session : Session) (owner : String) : Session × List DictWrite :=
  if session.subscriptions.keys.length = 0 then (session, [])
  else
    let subscriptions := session.subscriptions.erase owner
    ({ session with subscriptions },
      if subscriptions.keys.length = 0 then [bypassWrite session.conntrackID] else [])

/-- A sequence of `ReleaseSession` calls on one session, one after the other. -/
def releaseAll (session : Session) : List String → Session × List DictWrite
  | [] => (session, [])
  | owner :: owners =>
      let first := releaseSession session owner
      let rest := releaseAll first.1 owners
      (rest.1, first.2 ++ rest.2)

theorem releaseSession_fst (session : Session) (owner : String) :
    (releaseSession session owner).1 =
      { session with subscriptions := session.subscriptions.erase owner } := by
  unfold releaseSession
  split
  · next empty =>
      have absent : owner ∉ session.subscriptions.keys := by
        simp [List.eq_nil_of_length_eq_zero empty]
      have unchanged : (session.subscriptions.erase owner).entries =
          session.subscriptions.entries := List.kerase_of_not_mem_keys absent
      rw [AList.ext unchanged]
  · rfl

theorem releaseSession_snd (session : Session) (owner : String) :
    (releaseSession session owner).2 =
      if session.subscriptions.keys ≠ [] ∧ session.subscriptions.keys.erase owner = [] then
        [bypassWrite session.conntrackID] else [] := by
  unfold releaseSession
  by_cases empty : session.subscriptions.keys = []
  · simp [empty]
  · simp [empty, AList.keys_erase]

@[simp] theorem releaseSession_conntrackID (session : Session) (owner : String) :
    (releaseSession session owner).1.conntrackID = session.conntrackID := by
  rw [releaseSession_fst]

@[simp] theorem releaseSession_keys (session : Session) (owner : String) :
    (releaseSession session owner).1.subscriptions.keys =
      session.subscriptions.keys.erase owner := by
  rw [releaseSession_fst, AList.keys_erase]

theorem releaseSession_mem (session : Session) (owner other : String) :
    other ∈ (releaseSession session owner).1.subscriptions ↔
      other ≠ owner ∧ other ∈ session.subscriptions := by
  rw [releaseSession_fst, AList.mem_erase]

@[simp] theorem releaseAll_nil (session : Session) : releaseAll session [] = (session, []) := rfl

theorem releaseAll_cons (session : Session) (owner : String) (owners : List String) :
    releaseAll session (owner :: owners) =
      ((releaseAll (releaseSession session owner).1 owners).1,
        (releaseSession session owner).2 ++
          (releaseAll (releaseSession session owner).1 owners).2) :=
  rfl

theorem releaseAll_keys (session : Session) (owners : List String) :
    (releaseAll session owners).1.subscriptions.keys =
      session.subscriptions.keys.filter (· ∉ owners) := by
  induction owners generalizing session with
  | nil => simp
  | cons owner owners ih =>
      rw [releaseAll_cons, ih, releaseSession_keys,
        (session.subscriptions.keys_nodup).erase_eq_filter, List.filter_filter]
      congr 1
      funext key
      by_cases same : key = owner <;> simp [same]

theorem releaseAll_append (session : Session) (before after : List String) :
    releaseAll session (before ++ after) =
      ((releaseAll (releaseAll session before).1 after).1,
        (releaseAll session before).2 ++ (releaseAll (releaseAll session before).1 after).2) := by
  induction before generalizing session with
  | nil => rfl
  | cons owner before ih => simp [releaseAll_cons, ih]

theorem releaseAll_writes (session : Session) (owners : List String) :
    (releaseAll session owners).2 =
      if session.subscriptions.keys ≠ [] ∧ ∀ key ∈ session.subscriptions.keys, key ∈ owners then
        [bypassWrite session.conntrackID] else [] := by
  induction owners generalizing session with
  | nil =>
      refine (if_neg ?_).symm
      rintro ⟨nonempty, all⟩
      obtain ⟨key, member⟩ := List.exists_mem_of_ne_nil _ nonempty
      exact List.not_mem_nil key (all key member)
  | cons owner owners ih =>
      have nodup := session.subscriptions.keys_nodup
      rw [releaseAll_cons, releaseSession_snd, ih, releaseSession_keys, releaseSession_conntrackID]
      by_cases empty : session.subscriptions.keys = []
      · simp [empty]
      · by_cases last : session.subscriptions.keys.erase owner = []
        · have covered : ∀ key ∈ session.subscriptions.keys, key = owner := fun key member =>
            by_contra (fun other => by
              simpa [last] using (nodup.mem_erase_iff).2 ⟨other, member⟩)
          rw [if_pos ⟨empty, last⟩, if_neg (fun rest => rest.1 last),
            if_pos ⟨empty, fun key member => List.mem_cons.2 (.inl (covered key member))⟩]
          rfl
        · have shift : (∀ key ∈ session.subscriptions.keys.erase owner, key ∈ owners) ↔
              ∀ key ∈ session.subscriptions.keys, key ∈ owner :: owners := by
            simp only [nodup.mem_erase_iff, List.mem_cons]
            constructor
            · intro rest key member
              by_cases same : key = owner
              · exact .inl same
              · exact .inr (rest key ⟨same, member⟩)
            · rintro all key ⟨other, member⟩
              exact (all key member).resolve_left other
          simp only [ne_eq, empty, not_false_eq_true, last, and_false, ↓reduceIte,
            List.nil_append, true_and, shift]

theorem releaseAll_write_step (session : Session) (before : List String) (owner : String) :
    (releaseSession (releaseAll session before).1 owner).2 ≠ [] ↔
      (releaseAll session before).1.subscriptions.keys ≠ [] ∧
        (releaseAll session (before ++ [owner])).1.subscriptions.keys = [] := by
  rw [releaseSession_snd, releaseAll_append, releaseAll_cons]
  simp only [releaseAll_nil, releaseSession_keys]
  constructor
  · intro written
    by_contra silent
    exact written (if_neg silent)
  · intro last
    rw [if_pos last]
    exact List.cons_ne_nil _ _

theorem releaseAll_order_free (session : Session) (owners : List String) :
    (releaseAll session owners).1.subscriptions.keys =
        session.subscriptions.keys.filter (· ∉ owners) ∧
      (releaseAll session owners).2 =
        (if session.subscriptions.keys ≠ [] ∧ ∀ key ∈ session.subscriptions.keys, key ∈ owners
          then [bypassWrite session.conntrackID] else []) ∧
      ∀ before owner after, owners = before ++ owner :: after →
        ((releaseSession (releaseAll session before).1 owner).2 ≠ [] ↔
          (releaseAll session before).1.subscriptions.keys ≠ [] ∧
            (releaseAll session (before ++ [owner])).1.subscriptions.keys = []) :=
  ⟨releaseAll_keys session owners, releaseAll_writes session owners,
    fun before owner _ _ => releaseAll_write_step session before owner⟩

end Packetd
