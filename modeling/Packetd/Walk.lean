import Packetd.Session

/-! The priority walk of `callSubscribers`: the `for subcount != subtotal` loop, its tiers and
its exit. The loop's control never reads what the handlers return, so the walk is a function of
the subscription snapshot alone; the goroutines and the join are in `Dispatch`. -/

namespace Packetd

/-- The subscribers that one pass of the inner `range sublist` loop calls at `priority`. -/
def tier (sublist : SubscriptionTable) (priority : Nat) : List String :=
  (sublist.entries.filter (fun entry => entry.2 = (priority : Int))).map Sigma.fst

/-- How the walk leaves the loop: `subcount == subtotal`, or the `priority > 100` panic. -/
inductive WalkExit
  | normal
  | panic
  deriving DecidableEq, Repr

structure Walk where
  tiers : List (List String)
  exit : WalkExit
  deriving Repr

/-- The loop from priority `100 - remaining` on, with `subcount` subscribers already called.
`remaining` counts the increments left before `priority++` passes 100. -/
def walkFrom (sublist : SubscriptionTable) : Nat → Nat → Walk
  | remaining, subcount =>
    if subcount = sublist.keys.length then ⟨[], .normal⟩
    else
      let called := tier sublist (100 - remaining)
      match remaining with
      | 0 => ⟨[called], .panic⟩
      | remaining + 1 =>
          let rest := walkFrom sublist remaining (subcount + called.length)
          ⟨called :: rest.tiers, rest.exit⟩

/-- The walk of `callSubscribers`: `priority := 0`, `subcount := 0`. -/
def priorityWalk (sublist : SubscriptionTable) : Walk := walkFrom sublist 100 0

/-- Every subscriber has a priority below `bound`, and none is negative: a walk that has
passed tier `bound - 1` has called them all. -/
def CalledBelow (sublist : SubscriptionTable) (bound : Nat) : Prop :=
  ∀ entry ∈ sublist.entries, 0 ≤ entry.2 ∧ entry.2 < (bound : Int)

instance (sublist : SubscriptionTable) (bound : Nat) : Decidable (CalledBelow sublist bound) :=
  inferInstanceAs (Decidable (∀ entry ∈ sublist.entries, _))

def countBelow (sublist : SubscriptionTable) (bound : Nat) : Nat :=
  sublist.entries.countP (fun entry => 0 ≤ entry.2 ∧ entry.2 < (bound : Int))

@[simp] theorem countBelow_zero (sublist : SubscriptionTable) : countBelow sublist 0 = 0 :=
  List.countP_eq_zero.2 fun entry _ => by simp only [decide_eq_true_eq]; omega

theorem countBelow_succ (sublist : SubscriptionTable) (bound : Nat) :
    countBelow sublist (bound + 1) = countBelow sublist bound + (tier sublist bound).length := by
  simp only [countBelow, tier, List.length_map, ← List.countP_eq_length_filter]
  induction sublist.entries with
  | nil => rfl
  | cons entry rest ih =>
      simp only [List.countP_cons, ih, decide_eq_true_eq]
      split_ifs <;> omega

theorem countBelow_eq_length_iff (sublist : SubscriptionTable) (bound : Nat) :
    countBelow sublist bound = sublist.keys.length ↔ CalledBelow sublist bound := by
  have entries : sublist.keys.length = sublist.entries.length := by simp [AList.keys, List.keys]
  rw [entries, countBelow, List.countP_eq_length]
  simp [CalledBelow]

structure WalkSpec (sublist : SubscriptionTable) (start : Nat) (walk : Walk) : Prop where
  tiers : walk.tiers = (List.range' start walk.tiers.length).map (tier sublist)
  bound : start + walk.tiers.length ≤ 101
  continues : ∀ k, start ≤ k → k < start + walk.tiers.length → ¬ CalledBelow sublist k
  normal : walk.exit = .normal →
    start + walk.tiers.length ≤ 100 ∧ CalledBelow sublist (start + walk.tiers.length)
  panic : walk.exit = .panic → start + walk.tiers.length = 101

theorem walkSpec_done (sublist : SubscriptionTable) {start : Nat} (bounded : start ≤ 100)
    (called : CalledBelow sublist start) : WalkSpec sublist start ⟨[], .normal⟩ :=
  ⟨rfl, by simp; omega, fun k _ high => by simp at high; omega,
    fun _ => ⟨by simpa using bounded, by simpa using called⟩, nofun⟩

theorem walkFrom_spec (sublist : SubscriptionTable) (remaining : Nat) :
    ∀ subcount, remaining ≤ 100 → subcount = countBelow sublist (100 - remaining) →
      WalkSpec sublist (100 - remaining) (walkFrom sublist remaining subcount) := by
  induction remaining with
  | zero =>
      intro subcount _ counted
      rw [walkFrom]
      split
      · next done =>
          rw [counted, countBelow_eq_length_iff] at done
          exact walkSpec_done sublist (by omega) done
      · next open_ =>
          rw [counted, countBelow_eq_length_iff] at open_
          refine ⟨rfl, by simp, fun k low high => ?_, by simp, fun _ => rfl⟩
          simp only [List.length_singleton] at high
          rwa [show k = 100 - 0 by omega]
  | succ remaining ih =>
      intro subcount bounded counted
      rw [walkFrom]
      split
      · next done =>
          rw [counted, countBelow_eq_length_iff] at done
          exact walkSpec_done sublist (by omega) done
      · next open_ =>
          rw [counted, countBelow_eq_length_iff] at open_
          have start : 100 - (remaining + 1) + 1 = 100 - remaining := by omega
          have spec := ih (subcount + (tier sublist (100 - (remaining + 1))).length) (by omega)
            (by rw [counted, ← countBelow_succ, start])
          dsimp only
          generalize walkFrom sublist remaining
            (subcount + (tier sublist (100 - (remaining + 1))).length) = rest at spec
          obtain ⟨tiers, bound, continues, normal, panic⟩ := spec
          have shift : 100 - (remaining + 1) + (rest.tiers.length + 1) =
              100 - remaining + rest.tiers.length := by omega
          refine ⟨?_, ?_, ?_, ?_, ?_⟩
          · simp only [List.length_cons, List.range'_succ, List.map_cons]
            rw [start, ← tiers]
          · simp only [List.length_cons]; omega
          · intro k low high
            by_cases first : k = 100 - (remaining + 1)
            · rwa [first]
            · exact continues k (by omega) (by simp only [List.length_cons] at high; omega)
          · intro exit
            simp only [List.length_cons, shift]
            exact normal exit
          · intro exit
            simp only [List.length_cons, shift]
            exact panic exit

theorem priorityWalk_spec (sublist : SubscriptionTable) :
    WalkSpec sublist 0 (priorityWalk sublist) :=
  walkFrom_spec sublist 100 0 le_rfl (countBelow_zero sublist).symm

theorem calledBelow_mono (sublist : SubscriptionTable) {low high : Nat} (le : low ≤ high)
    (called : CalledBelow sublist low) : CalledBelow sublist high := fun entry member =>
  ⟨(called entry member).1, by have := (called entry member).2; omega⟩

theorem filter_range_succ_perm (entries : List (Σ _ : String, Int)) (start n : Nat) :
    (entries.filter fun entry =>
        (start : Int) ≤ entry.2 ∧ entry.2 < ((start + (n + 1) : Nat) : Int)).Perm
      (entries.filter (fun entry => entry.2 = (start : Int)) ++
        entries.filter fun entry =>
          ((start + 1 : Nat) : Int) ≤ entry.2 ∧ entry.2 < ((start + 1 + n : Nat) : Int)) := by
  induction entries with
  | nil => simp
  | cons entry rest ih =>
      by_cases first : entry.2 = start
      · have inside : decide ((start : Int) ≤ entry.2 ∧
            entry.2 < ((start + (n + 1) : Nat) : Int)) = true := decide_eq_true (by omega)
        have later : decide (((start + 1 : Nat) : Int) ≤ entry.2 ∧
            entry.2 < ((start + 1 + n : Nat) : Int)) = false := decide_eq_false (by omega)
        simp only [List.filter_cons, inside, decide_eq_true first, later, ↓reduceIte,
          Bool.false_eq_true, List.cons_append]
        exact ih.cons entry
      · have other : decide (entry.2 = (start : Int)) = false := decide_eq_false first
        by_cases inside : (start : Int) ≤ entry.2 ∧ entry.2 < ((start + (n + 1) : Nat) : Int)
        · have later : decide (((start + 1 : Nat) : Int) ≤ entry.2 ∧
              entry.2 < ((start + 1 + n : Nat) : Int)) = true := decide_eq_true (by omega)
          simp only [List.filter_cons, decide_eq_true inside, other, later, ↓reduceIte,
            Bool.false_eq_true]
          exact (ih.cons entry).trans List.perm_middle.symm
        · have later : decide (((start + 1 : Nat) : Int) ≤ entry.2 ∧
              entry.2 < ((start + 1 + n : Nat) : Int)) = false := decide_eq_false (by omega)
          simp only [List.filter_cons, decide_eq_false inside, other, later, ↓reduceIte,
            Bool.false_eq_true]
          exact ih

theorem tiers_flatten_perm (sublist : SubscriptionTable) (start n : Nat) :
    ((List.range' start n).map (tier sublist)).flatten.Perm
      ((sublist.entries.filter fun entry =>
        (start : Int) ≤ entry.2 ∧ entry.2 < ((start + n : Nat) : Int)).map Sigma.fst) := by
  induction n generalizing start with
  | zero =>
      have none : (sublist.entries.filter fun entry =>
          (start : Int) ≤ entry.2 ∧ entry.2 < ((start + 0 : Nat) : Int)) = [] :=
        List.filter_eq_nil_iff.2 fun entry _ => by simp only [decide_eq_true_eq]; omega
      simp [none]
  | succ n ih =>
      simp only [List.range'_succ, List.map_cons, List.flatten_cons]
      refine ((ih (start + 1)).append_left _).trans ?_
      rw [tier, ← List.map_append]
      exact ((filter_range_succ_perm sublist.entries start n).map _).symm

theorem priorityWalk_normal_iff (sublist : SubscriptionTable) :
    (priorityWalk sublist).exit = .normal ↔ CalledBelow sublist 100 := by
  obtain ⟨-, -, continues, normal, panic⟩ := priorityWalk_spec sublist
  simp only [Nat.zero_add] at continues normal panic
  constructor
  · intro exit
    exact calledBelow_mono sublist (normal exit).1 (normal exit).2
  · intro called
    cases exit : (priorityWalk sublist).exit with
    | normal => rfl
    | panic => exact absurd called (continues 100 (Nat.zero_le _) (by rw [panic exit]; omega))

theorem mem_priorityWalk_tiers (sublist : SubscriptionTable) (inRange : CalledBelow sublist 100)
    (owner : String) : owner ∈ (priorityWalk sublist).tiers.flatten ↔ owner ∈ sublist := by
  obtain ⟨tiers, -, -, normal, -⟩ := priorityWalk_spec sublist
  obtain ⟨-, called⟩ := normal ((priorityWalk_normal_iff sublist).2 inRange)
  simp only [Nat.zero_add] at tiers called
  have perm := tiers_flatten_perm sublist 0 (priorityWalk sublist).tiers.length
  rw [← tiers, List.filter_eq_self.2 fun entry member => by
    simpa using called entry member] at perm
  rw [perm.mem_iff, AList.mem_keys]
  rfl

theorem mem_of_mem_priorityWalk_tiers (sublist : SubscriptionTable) {called : List String}
    (member : called ∈ (priorityWalk sublist).tiers) {owner : String} (inTier : owner ∈ called) :
    owner ∈ sublist := by
  obtain ⟨tiers, -⟩ := priorityWalk_spec sublist
  rw [tiers] at member
  obtain ⟨priority, -, rfl⟩ := List.mem_map.1 member
  obtain ⟨entry, chosen, rfl⟩ := List.mem_map.1 inTier
  exact AList.mem_keys.2 (List.mem_map_of_mem Sigma.fst (List.mem_of_mem_filter chosen))

/-- The priority walk calls the tiers `0, 1, 2, …` in order, each subscriber at most once and
only those with a priority in `[0, 100]`; it leaves the loop normally exactly when every
priority is in `[0, 99]`, and otherwise panics after its 101st tier. -/
theorem priorityWalk_correct (sublist : SubscriptionTable) :
    (priorityWalk sublist).tiers =
        (List.range (priorityWalk sublist).tiers.length).map (tier sublist) ∧
      (priorityWalk sublist).tiers.flatten.Perm
        ((sublist.entries.filter fun entry => 0 ≤ entry.2 ∧ entry.2 ≤ 100).map Sigma.fst) ∧
      ((priorityWalk sublist).exit = .normal ↔ CalledBelow sublist 100) ∧
      ((priorityWalk sublist).exit = .panic ↔ (priorityWalk sublist).tiers.length = 101) ∧
      (priorityWalk sublist).tiers.length ≤ 101 := by
  obtain ⟨tiers, bound, -, normal, panic⟩ := priorityWalk_spec sublist
  simp only [Nat.zero_add] at tiers bound normal panic
  have exitPanic : (priorityWalk sublist).exit = .panic ↔
      (priorityWalk sublist).tiers.length = 101 := by
    constructor
    · exact panic
    · intro full
      cases exit : (priorityWalk sublist).exit with
      | normal => have := (normal exit).1; omega
      | panic => rfl
  refine ⟨by rw [List.range_eq_range'] at *; exact tiers, ?_, priorityWalk_normal_iff sublist,
    exitPanic, bound⟩
  have same : (sublist.entries.filter fun entry => ((0 : Nat) : Int) ≤ entry.2 ∧
      entry.2 < ((0 + (priorityWalk sublist).tiers.length : Nat) : Int)) =
      sublist.entries.filter fun entry => 0 ≤ entry.2 ∧ entry.2 ≤ 100 := by
    apply List.filter_congr
    intro entry member
    simp only [decide_eq_decide]
    cases exit : (priorityWalk sublist).exit with
    | normal =>
        have := (normal exit).2 entry member
        have := (normal exit).1
        omega
    | panic =>
        have := panic exit
        omega
  have perm := tiers_flatten_perm sublist 0 (priorityWalk sublist).tiers.length
  rw [← tiers] at perm
  rwa [← same]

end Packetd
