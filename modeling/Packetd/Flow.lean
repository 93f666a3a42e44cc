import Packetd.Ruleset

/-! The hooks of `insert_packetd_rules` over the life of one flow. Each packet passes the base
chains of its hooks in netfilter's order (prerouting before input), and the conntrack mark that
one traversal sets is the mark every later traversal of the flow reads. -/

namespace Packetd

section Hooks

variable (devnet : Option Prefix4) (first last : Nat)

theorem evalHook_prerouting (t : Traversal) :
    evalHook (insertPacketdRules devnet first last) .prerouting t =
      evalRules (evalChain (insertPacketdRules devnet first last) 1)
        (insertPacketdRules devnet first last .queue) t := rfl

theorem evalHook_output (t : Traversal) :
    evalHook (insertPacketdRules devnet first last) .output t =
      evalRules (evalChain (insertPacketdRules devnet first last) 1)
        (insertPacketdRules devnet first last .queue)
        (if t.ctState = .new then { t with ctMark := t.ctMark ||| 0x80000000 } else t) := by
  by_cases new : t.ctState = .new <;>
    simp [evalHook, evalChain, insertPacketdRules, evalRules_cons, RuleMatch.holds,
      Statement.apply, new]

def Traversal.isDNS (t : Traversal) : Prop :=
  (t.protocol = 17 ∧ t.dport = 53) ∨ (t.protocol = 6 ∧ t.dport = 53)

instance (t : Traversal) : Decidable t.isDNS := inferInstanceAs (Decidable (_ ∨ _))

theorem evalHook_input (t : Traversal) :
    evalHook (insertPacketdRules devnet first last) .input t =
      (.next, if ¬ t.isDNS ∧ t.ctState = .new
        then { t with ctMark := t.ctMark ||| 0x80000000 } else t) := by
  by_cases udp : t.protocol = 17 ∧ t.dport = 53
  · simp [evalHook, evalChain, insertPacketdRules, evalRules_cons, RuleMatch.holds,
      Traversal.isDNS, udp]
  by_cases tcp : t.protocol = 6 ∧ t.dport = 53
  · simp [evalHook, evalChain, insertPacketdRules, evalRules_cons, RuleMatch.holds,
      Traversal.isDNS, tcp]
  have dns : ¬ t.isDNS := fun dns => dns.elim udp tcp
  by_cases new : t.ctState = .new <;>
    simp [evalHook, evalChain, insertPacketdRules, evalRules_cons, RuleMatch.holds,
      Statement.apply, udp, tcp, dns, new]

theorem evalHook_bypassed (chain : Chain) (t : Traversal)
    (bypassed : t.ctMark &&& 0x80000000 = 0x80000000) :
    (evalHook (insertPacketdRules devnet first last) chain t).1 = .next ∧
      (evalHook (insertPacketdRules devnet first last) chain t).2.ctMark &&& 0x80000000 =
        0x80000000 := by
  cases chain with
  | prerouting =>
      rw [evalHook_prerouting, evalRules_queue_ctMark]
      exact ⟨evalRules_queue_bypassed _ devnet first last t bypassed, bypassed⟩
  | output =>
      have kept : (if t.ctState = .new then { t with ctMark := t.ctMark ||| 0x80000000 }
          else t).ctMark &&& 0x80000000 = 0x80000000 := by
        split
        · exact bits_or_keeps _ bypassed
        · exact bypassed
      rw [evalHook_output, evalRules_queue_ctMark]
      exact ⟨evalRules_queue_bypassed _ devnet first last _ kept, kept⟩
  | input =>
      rw [evalHook_input]
      refine ⟨rfl, ?_⟩
      split
      · exact bits_or_keeps _ bypassed
      · exact bypassed
  | queue =>
      change (evalRules _ (insertPacketdRules devnet first last .queue) t).1 = .next ∧
        (evalRules _ (insertPacketdRules devnet first last .queue) t).2.ctMark &&& 0x80000000 =
          0x80000000
      rw [evalRules_queue_ctMark]
      exact ⟨evalRules_queue_bypassed _ devnet first last t bypassed, bypassed⟩

theorem evalHook_marks (chain : Chain) (t : Traversal) (new : t.ctState = .new)
    (marking : chain = .output ∨ (chain = .input ∧ ¬ t.isDNS)) :
    (evalHook (insertPacketdRules devnet first last) chain t).1 = .next ∧
      (evalHook (insertPacketdRules devnet first last) chain t).2.ctMark &&& 0x80000000 =
        0x80000000 := by
  rcases marking with rfl | ⟨rfl, dns⟩
  · have marked : ({ t with ctMark := t.ctMark ||| 0x80000000 } : Traversal).ctMark &&&
        0x80000000 = 0x80000000 := bits_or_and_self _ _
    rw [evalHook_output, if_pos new, evalRules_queue_ctMark]
    exact ⟨evalRules_queue_bypassed _ devnet first last _ marked, marked⟩
  · rw [evalHook_input, if_pos ⟨dns, new⟩]
    exact ⟨rfl, bits_or_and_self _ _⟩

end Hooks

/-- The hook traversals of one flow's packets in time order, each reading the conntrack mark
that the earlier ones left, and the verdict of each. -/
def traverseFlow (rules : Chain → List Rule) : UInt32 → List (Chain × Traversal) → List Verdict
  | _, [] => []
  | ctMark, (chain, t) :: rest =>
      let result := evalHook rules chain { t with ctMark }
      result.1 :: traverseFlow rules result.2.ctMark rest

theorem traverseFlow_drop (rules : Chain → List Rule) (before rest : List (Chain × Traversal)) :
    ∀ ctMark, ∃ later, (traverseFlow rules ctMark (before ++ rest)).drop before.length =
      traverseFlow rules later rest := by
  induction before with
  | nil => exact fun ctMark => ⟨ctMark, rfl⟩
  | cons event before ih => exact fun _ => ih _

theorem traverseFlow_bypassed (devnet : Option Prefix4) (first last : Nat)
    (events : List (Chain × Traversal)) :
    ∀ ctMark, ctMark &&& 0x80000000 = 0x80000000 →
      ∀ verdict ∈ traverseFlow (insertPacketdRules devnet first last) ctMark events,
        verdict = .next := by
  induction events with
  | nil => simp [traverseFlow]
  | cons event rest ih =>
      intro ctMark bypassed verdict mem
      obtain ⟨chain, t⟩ := event
      obtain ⟨next, kept⟩ := evalHook_bypassed devnet first last chain { t with ctMark } bypassed
      rcases List.mem_cons.1 mem with rfl | later
      · exact next
      · exact ih _ kept verdict later

/-- Once a packet of a flow with ct state new has passed the output hook, or the input hook
with no DNS port, no traversal from that one on queues a packet of the flow. Before it, a
prerouting traversal queues a packet whenever the queue chain's checks pass. -/
theorem traverseFlow_after_bypass_mark (devnet : Option Prefix4) (first last : Nat)
    (ctMark : UInt32)
    (before after : List (Chain × Traversal)) (chain : Chain) (t : Traversal)
    (new : t.ctState = .new) (marking : chain = .output ∨ (chain = .input ∧ ¬ t.isDNS)) :
    ∀ verdict ∈ (traverseFlow (insertPacketdRules devnet first last) ctMark
        (before ++ (chain, t) :: after)).drop before.length, verdict = .next := by
  obtain ⟨later, dropped⟩ := traverseFlow_drop (insertPacketdRules devnet first last) before
    ((chain, t) :: after) ctMark
  obtain ⟨next, marked⟩ := evalHook_marks devnet first last chain { t with ctMark := later } new
    marking
  rw [dropped]
  intro verdict mem
  rcases List.mem_cons.1 mem with rfl | rest
  · exact next
  · exact traverseFlow_bypassed devnet first last after _ marked verdict rest

def sshToHost : Traversal :=
  { ctState := .new, ctID := 7, ctPackets := 1, ctMark := 0, mark := 0,
    saddr := .v4 0x5db8d822, daddr := .v4 0x0a000001, saddrType := .unicast, daddrType := .host,
    protocol := 6, dport := 22, dict := Dict.empty }

theorem traverseFlow_after_bypass_mark_sshToHost :
    sshToHost.ctState = .new ∧ ¬ sshToHost.isDNS ∧
      ∀ verdict ∈ (traverseFlow (insertPacketdRules none 0 0) 0
          ([(.prerouting, sshToHost)] ++ (.input, sshToHost) ::
            [(.prerouting, { sshToHost with ctState := .established })])).drop 1,
        verdict = .next :=
  ⟨rfl, by decide, traverseFlow_after_bypass_mark none 0 0 0 [(.prerouting, sshToHost)]
    [(.prerouting, { sshToHost with ctState := .established })] .input sshToHost rfl
    (.inr ⟨rfl, by decide⟩)⟩

/-- The first packet of a connection to this host passes prerouting, and is queued, before the
input hook sets the bypass bit. -/
theorem sshToHost_queued_before_input :
    traverseFlow (insertPacketdRules none 0 0) 0 [(.prerouting, sshToHost), (.input, sshToHost)] =
      [.queued, .next] := by decide

end Packetd