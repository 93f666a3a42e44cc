import Packetd.Basic

/-! The nftables chains that `insert_packetd_rules` installs, and netfilter's evaluation of a
chain: the first rule whose expressions all match acts; a statement changes the packet, its
conntrack entry or the dictionary and evaluation goes on; `return` or the end of the chain hands
the packet on; `goto` continues in another chain; `queue` sends the packet to userspace. -/

namespace Packetd

inductive CtState
  | new
  | established
  | related
  | invalid
  | untracked
  deriving DecidableEq, Repr

/-- The route types `fib saddr type` and `fib daddr type` report (`host` is nft's `local`). -/
inductive AddressType
  | unspec
  | unicast
  | host
  | broadcast
  | anycast
  | multicast
  | blackhole
  | unreachable
  | prohibit
  deriving DecidableEq, Repr

structure Prefix4 where
  address : UInt32
  length : Nat
  deriving DecidableEq, Repr

def Prefix4.contains (net : Prefix4) (addr : UInt32) : Bool :=
  Nat.shiftRight addr.toNat (32 - net.length) == Nat.shiftRight net.address.toNat (32 - net.length)

/-- `ip saddr net` and `ip daddr net` match IPv4 packets only. -/
def IP.inPrefix4 (net : Prefix4) : IP → Bool
  | .v4 addr => net.contains addr
  | .v6 _ => false

/-- `127.0.0.1/8`, the network `127.0.0.0/8`. -/
def loopbackNet : Prefix4 := ⟨0x7f000001, 8⟩

structure Traversal where
  ctState : CtState
  ctID : UInt32
  ctPackets : Nat
  ctMark : UInt32
  mark : UInt32
  saddr : IP
  daddr : IP
  saddrType : AddressType
  daddrType : AddressType
  protocol : UInt8
  dport : UInt16
  dict : Dict

inductive RuleMatch
  | ctState (state : CtState)
  | udpDport (port : UInt16)
  | tcpDport (port : UInt16)
  | ipSaddr (net : Prefix4)
  | ipDaddr (net : Prefix4)
  | ip6Saddr (addr : IPv6Address)
  | ip6Daddr (addr : IPv6Address)
  /-- `dict sessions ct id bypass_packetd bool true`. -/
  | sessionsBypass
  /-- `ct mark and mask == value`. -/
  | ctMarkAnd (mask value : UInt32)
  | fibSaddrType (type : AddressType)
  | fibDaddrType (type : AddressType)
  /-- `ct packets > count`. -/
  | ctPacketsAbove (count : Nat)
  deriving DecidableEq, Repr

def RuleMatch.holds (t : Traversal) : RuleMatch → Bool
  | .ctState state => t.ctState == state
  | .udpDport port => t.protocol == 17 && t.dport == port
  | .tcpDport port => t.protocol == 6 && t.dport == port
  | .ipSaddr net => t.saddr.inPrefix4 net
  | .ipDaddr net => t.daddr.inPrefix4 net
  | .ip6Saddr addr => t.saddr == .v6 addr
  | .ip6Daddr addr => t.daddr == .v6 addr
  | .sessionsBypass => t.dict.bypassed t.ctID
  | .ctMarkAnd mask value => t.ctMark &&& mask == value
  | .fibSaddrType type => t.saddrType == type
  | .fibDaddrType type => t.daddrType == type
  | .ctPacketsAbove count => decide (count < t.ctPackets)

/-- The statements that change the packet, its conntrack entry or the dictionary. -/
inductive Statement
  /-- `ct mark set ct mark or bits`. -/
  | ctMarkOr (bits : UInt32)
  /-- `mark set mark|bits`. -/
  | markOr (bits : UInt32)
  /-- `dict sessions ct id flush`. -/
  | flushSession
  deriving DecidableEq, Repr

def Statement.apply (t : Traversal) : Statement → Traversal
  | .ctMarkOr bits => { t with ctMark := t.ctMark ||| bits }
  | .markOr bits => { t with mark := t.mark ||| bits }
  | .flushSession => { t with dict := t.dict.flushSession t.ctID }

/-- The chains of table `inet packetd`. -/
inductive Chain
  | prerouting
  | output
  | input
  | queue
  deriving DecidableEq, Repr

inductive Action
  | statement (statement : Statement)
  | ret
  | goto (chain : Chain)
  /-- `queue num first` or `queue num first-last fanout`, both with `bypass`. -/
  | queue (first last : Nat)
  deriving DecidableEq, Repr

/-- A rule: its match expressions (`counter` only counts and is left out), then its action. -/
structure Rule where
  exprs : List RuleMatch
  action : Action
  deriving DecidableEq, Repr

/-- What evaluation ends with: `next` when the chain runs out of rules or returns, so the
packet goes on through the hook; `queued` when a queue rule sends it to userspace. -/
inductive Verdict
  | next
  | queued
  deriving DecidableEq, Repr

def evalRules (jump : Chain → Traversal → Verdict × Traversal) :
    List Rule → Traversal → Verdict × Traversal
  | [], t => (.next, t)
  | rule :: rest, t =>
      if rule.exprs.all (·.holds t) then
        match rule.action with
        | .statement statement => evalRules jump rest (statement.apply t)
        | .ret => (.next, t)
        | .goto chain => jump chain t
        | .queue _ _ => (.queued, t)
      else evalRules jump rest t

/-- A chain, following at most `depth` gotos. -/
def evalChain (rules : Chain → List Rule) : Nat → Chain → Traversal → Verdict × Traversal
  | 0, chain, t => evalRules (fun _ t => (.next, t)) (rules chain) t
  | depth + 1, chain, t => evalRules (evalChain rules depth) (rules chain) t

/-- A base chain at its hook. nft refuses a ruleset whose gotos loop, so a path of gotos
visits each of the four chains at most once. -/
def evalHook (rules : Chain → List Rule) (chain : Chain) (t : Traversal) : Verdict × Traversal :=
  evalChain rules 3 chain t

/-! The ruleset of `insert_packetd_rules "$1" "$2"`, with `PACKETD_DEVNET` as `devnet`. -/

/-- The `return` rules of `packetd-queue`, from the loopback checks to the deep-session check. -/
def queueReturns (devnet : Option Prefix4) : List Rule :=
  [⟨[.ipSaddr loopbackNet], .ret⟩,
   ⟨[.ipDaddr loopbackNet], .ret⟩,
   ⟨[.ip6Saddr ipv6Loopback], .ret⟩,
   ⟨[.ip6Daddr ipv6Loopback], .ret⟩] ++
  (match devnet with
   | some net => [⟨[.ipSaddr net], .ret⟩, ⟨[.ipDaddr net], .ret⟩]
   | none => []) ++
  [⟨[.ctState .invalid], .ret⟩,
   ⟨[.ctState .untracked], .ret⟩,
   ⟨[.sessionsBypass], .ret⟩,
   ⟨[.ctMarkAnd 0x80000000 0x80000000], .ret⟩,
   ⟨[.fibSaddrType .anycast], .ret⟩,
   ⟨[.fibDaddrType .anycast], .ret⟩,
   ⟨[.fibSaddrType .broadcast], .ret⟩,
   ⟨[.fibDaddrType .broadcast], .ret⟩,
   ⟨[.fibSaddrType .multicast], .ret⟩,
   ⟨[.fibDaddrType .multicast], .ret⟩,
   ⟨[.ctPacketsAbove 256], .ret⟩]

def insertPacketdRules (devnet : Option Prefix4) (first last : Nat) : Chain → List Rule
  | .output =>
      [⟨[.ctState .new], .statement (.ctMarkOr 0x80000000)⟩,
       ⟨[], .goto .queue⟩]
  | .input =>
      [⟨[.udpDport 53], .ret⟩,
       ⟨[.tcpDport 53], .ret⟩,
       ⟨[.ctState .new], .statement (.ctMarkOr 0x80000000)⟩]
  | .prerouting => [⟨[], .goto .queue⟩]
  | .queue =>
      ⟨[.ctState .new], .statement .flushSession⟩ :: queueReturns devnet ++
      [⟨[.ctState .new], .statement (.markOr 0x10000000)⟩,
       ⟨[], .queue first last⟩]

/-! Evaluation lemmas. -/

theorem bits_or_and_self (m c : UInt32) : (m ||| c) &&& c = c := by
  apply UInt32.eq_of_toBitVec_eq
  change (m.toBitVec ||| c.toBitVec) &&& c.toBitVec = c.toBitVec
  ext i
  simp only [BitVec.getLsbD_and, BitVec.getLsbD_or]
  cases m.toBitVec.getLsbD i <;> cases c.toBitVec.getLsbD i <;> rfl

theorem bits_or_keeps {m c : UInt32} (x : UInt32) (set : m &&& c = c) : (m ||| x) &&& c = c := by
  apply UInt32.eq_of_toBitVec_eq
  have set : m.toBitVec &&& c.toBitVec = c.toBitVec := congrArg UInt32.toBitVec set
  change (m.toBitVec ||| x.toBitVec) &&& c.toBitVec = c.toBitVec
  ext i
  have bit := congrArg (BitVec.getLsbD · i) set
  simp only [BitVec.getLsbD_and, BitVec.getLsbD_or] at bit ⊢
  cases hm : m.toBitVec.getLsbD i <;> cases hc : c.toBitVec.getLsbD i <;> simp_all

section Evaluation

variable (jump : Chain → Traversal → Verdict × Traversal)

@[simp] theorem evalRules_nil (t : Traversal) : evalRules jump [] t = (.next, t) := rfl

theorem evalRules_cons (rule : Rule) (rest : List Rule) (t : Traversal) :
    evalRules jump (rule :: rest) t =
      if rule.exprs.all (·.holds t) then
        match rule.action with
        | .statement statement => evalRules jump rest (statement.apply t)
        | .ret => (.next, t)
        | .goto chain => jump chain t
        | .queue _ _ => (.queued, t)
      else evalRules jump rest t := rfl

theorem evalRules_returns (returns rest : List Rule) (t : Traversal)
    (returning : ∀ rule ∈ returns, rule.action = .ret) :
    evalRules jump (returns ++ rest) t =
      if returns.any (fun rule => rule.exprs.all (·.holds t)) then (.next, t)
      else evalRules jump rest t := by
  induction returns with
  | nil => rfl
  | cons rule returns ih =>
      rw [List.cons_append, evalRules_cons, returning rule (List.mem_cons_self _ _),
        ih fun rule mem => returning rule (List.mem_cons_of_mem _ mem)]
      by_cases matched : rule.exprs.all (·.holds t) <;> simp [matched]

theorem queueReturns_ret (devnet : Option Prefix4) :
    ∀ rule ∈ queueReturns devnet, rule.action = .ret := by
  simp only [queueReturns, List.forall_mem_append]
  refine ⟨⟨by decide, ?_⟩, by decide⟩
  cases devnet <;> simp

theorem evalRules_queue (devnet : Option Prefix4) (first last : Nat) (t : Traversal) :
    evalRules jump (insertPacketdRules devnet first last .queue) t =
      let t := if t.ctState = .new then { t with dict := t.dict.flushSession t.ctID } else t
      if (queueReturns devnet).any (fun rule => rule.exprs.all (·.holds t)) then (.next, t)
      else (.queued, if t.ctState = .new then { t with mark := t.mark ||| 0x10000000 } else t) := by
  by_cases new : t.ctState = .new <;>
  simp [insertPacketdRules, evalRules_cons, RuleMatch.holds, Statement.apply, new,
    evalRules_returns jump _ _ _ (queueReturns_ret devnet)]

theorem queueReturns_pass (devnet : Option Prefix4) (t : Traversal) :
    (queueReturns devnet).any (fun rule => rule.exprs.all (·.holds t)) = false ↔
      t.saddr.inPrefix4 loopbackNet = false ∧ t.daddr.inPrefix4 loopbackNet = false ∧
      t.saddr ≠ .v6 ipv6Loopback ∧ t.daddr ≠ .v6 ipv6Loopback ∧
      (∀ net, devnet = some net → t.saddr.inPrefix4 net = false ∧ t.daddr.inPrefix4 net = false) ∧
      t.ctState ≠ .invalid ∧ t.ctState ≠ .untracked ∧ t.dict.bypassed t.ctID = false ∧
      t.ctMark &&& 0x80000000 ≠ 0x80000000 ∧
      t.saddrType ≠ .anycast ∧ t.daddrType ≠ .anycast ∧
      t.saddrType ≠ .broadcast ∧ t.daddrType ≠ .broadcast ∧
      t.saddrType ≠ .multicast ∧ t.daddrType ≠ .multicast ∧ t.ctPackets ≤ 256 := by
  cases devnet <;> simp [queueReturns, RuleMatch.holds, and_assoc]

theorem evalRules_queue_verdict (devnet : Option Prefix4) (first last : Nat) (t : Traversal) :
    (evalRules jump (insertPacketdRules devnet first last .queue) t).1 = .queued ↔
      (queueReturns devnet).any (fun rule => rule.exprs.all (·.holds
        (if t.ctState = .new then { t with dict := t.dict.flushSession t.ctID } else t))) =
        false := by
  by_cases new : t.ctState = .new <;> simp only [evalRules_queue, new, ↓reduceIte] <;>
    split <;> simp_all

theorem evalRules_queue_queued_iff (devnet : Option Prefix4) (first last : Nat) (t : Traversal) :
    (evalRules jump (insertPacketdRules devnet first last .queue) t).1 = .queued ↔
      t.ctMark &&& 0x80000000 ≠ 0x80000000 ∧
      t.saddr.inPrefix4 loopbackNet = false ∧ t.daddr.inPrefix4 loopbackNet = false ∧
      t.saddr ≠ .v6 ipv6Loopback ∧ t.daddr ≠ .v6 ipv6Loopback ∧
      (∀ net, devnet = some net → t.saddr.inPrefix4 net = false ∧ t.daddr.inPrefix4 net = false) ∧
      t.ctState ≠ .invalid ∧ t.ctState ≠ .untracked ∧
      t.saddrType ∉ [.anycast, .broadcast, .multicast] ∧
      t.daddrType ∉ [.anycast, .broadcast, .multicast] ∧ t.ctPackets ≤ 256 ∧
      (t.ctState = .new ∨ t.dict.bypassed t.ctID = false) := by
  rw [evalRules_queue_verdict, queueReturns_pass]
  by_cases new : t.ctState = .new <;> simp [new, Dict.bypassed] <;> tauto

theorem evalRules_queue_ctMark (devnet : Option Prefix4) (first last : Nat) (t : Traversal) :
    (evalRules jump (insertPacketdRules devnet first last .queue) t).2.ctMark = t.ctMark := by
  by_cases new : t.ctState = .new <;> simp only [evalRules_queue, new, ↓reduceIte] <;>
    split <;> rfl

theorem evalRules_queue_bypassed (devnet : Option Prefix4) (first last : Nat) (t : Traversal)
    (bypassed : t.ctMark &&& 0x80000000 = 0x80000000) :
    (evalRules jump (insertPacketdRules devnet first last .queue) t).1 = .next := by
  cases verdict : (evalRules jump (insertPacketdRules devnet first last .queue) t).1 with
  | next => rfl
  | queued =>
      exact absurd bypassed ((evalRules_queue_queued_iff jump devnet first last t).1 verdict).1

end Evaluation

/-- Every packet that reaches `packetd-queue`, whatever chain it came from: it is queued exactly
when its ct mark lacks the bypass bit, no address is loopback or in the development network, its
ct state is tracked and valid, no address is anycast, broadcast or multicast, it is within the
first 256 packets of its connection, and the dictionary does not mark it bypassed, where a new
connection's entry has been flushed before that check; a queued packet carries the new-session
bit exactly when its connection is new. -/
theorem queueChain_correct (devnet : Option Prefix4) (first last : Nat)
    (jump : Chain → Traversal → Verdict × Traversal) (t : Traversal) :
    ((evalRules jump (insertPacketdRules devnet first last .queue) t).1 = .queued ↔
      t.ctMark &&& 0x80000000 ≠ 0x80000000 ∧
      t.saddr.inPrefix4 loopbackNet = false ∧ t.daddr.inPrefix4 loopbackNet = false ∧
      t.saddr ≠ .v6 ipv6Loopback ∧ t.daddr ≠ .v6 ipv6Loopback ∧
      (∀ net, devnet = some net → t.saddr.inPrefix4 net = false ∧ t.daddr.inPrefix4 net = false) ∧
      t.ctState ≠ .invalid ∧ t.ctState ≠ .untracked ∧
      t.saddrType ∉ [.anycast, .broadcast, .multicast] ∧
      t.daddrType ∉ [.anycast, .broadcast, .multicast] ∧ t.ctPackets ≤ 256 ∧
      (t.ctState = .new ∨ t.dict.bypassed t.ctID = false)) ∧
    (t.ctState = .new →
      (evalRules jump (insertPacketdRules devnet first last .queue) t).2.dict =
        t.dict.flushSession t.ctID ∧
      ∀ dict, (evalRules jump (insertPacketdRules devnet first last .queue) { t with dict }).1 =
        (evalRules jump (insertPacketdRules devnet first last .queue) t).1) ∧
    (t.mark &&& 0x10000000 = 0 →
      (evalRules jump (insertPacketdRules devnet first last .queue) t).1 = .queued →
      ((evalRules jump (insertPacketdRules devnet first last .queue) t).2.mark &&& 0x10000000 ≠ 0 ↔
        t.ctState = .new)) := by
  refine ⟨evalRules_queue_queued_iff jump devnet first last t,
    fun new => ⟨?_, fun dict => ?_⟩, fun clear queued => ?_⟩
  · rw [evalRules_queue]
    simp only [new, ↓reduceIte]
    split <;> rfl
  · have sameVerdict : ∀ v w : Verdict, (v = .queued ↔ w = .queued) → v = w := by
      intro v w; cases v <;> cases w <;> simp
    exact sameVerdict _ _ ((evalRules_queue_queued_iff jump devnet first last _).trans
      (by simp [new]) |>.trans (evalRules_queue_queued_iff jump devnet first last t).symm)
  · rw [evalRules_queue] at queued ⊢
    by_cases new : t.ctState = .new <;> simp only [new, ↓reduceIte] at queued ⊢ <;>
      split <;> simp_all [bits_or_and_self]

end Packetd