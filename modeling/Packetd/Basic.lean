import Mathlib.Data.List.AList

/-! Addresses, tuples and the `sessions` table of the dictionary, as the dispatcher and the
kernel ruleset share them. Session objects and the rest of the dispatcher build on these. -/

namespace Packetd

structure IPv6Address where
  high : UInt64
  low : UInt64
  deriving DecidableEq, Repr

/-- A `net.IP` as the packet layers produce it: four bytes from an IPv4 layer, sixteen from an
IPv6 layer. -/
inductive IP
  | v4 (addr : UInt32)
  | v6 (addr : IPv6Address)
  deriving DecidableEq, Repr

def ipv6Loopback : IPv6Address := ⟨0, 1⟩

/-- `net.IP.To4`: the IPv4 address, also of an IPv4-mapped IPv6 address `::ffff:a.b.c.d`. -/
def IP.to4 : IP → Option UInt32
  | .v4 addr => some addr
  | .v6 addr =>
      if addr.high == 0 && addr.low >>> 32 == 0xffff then some addr.low.toUInt32 else none

/-- `net.IP.IsLoopback`: an IPv4 address in `127.0.0.0/8`, or `::1`. -/
def IP.isLoopback (ip : IP) : Bool :=
  match ip.to4 with
  | some addr => addr >>> 24 == 127
  | none => ip == .v6 ipv6Loopback

structure Tuple where
  protocol : UInt8
  clientAddress : IP
  clientPort : UInt16
  serverAddress : IP
  serverPort : UInt16
  deriving DecidableEq, Repr

/-- `NF_DROP` and `NF_ACCEPT`. -/
def nfDrop : Nat := 0
def nfAccept : Nat := 1

inductive Value
  | bool (b : Bool)
  | str (s : String)
  deriving DecidableEq, Repr

/-- The `sessions` table of the dictionary: conntrack id, then field name. -/
structure Dict where
  sessions : UInt32 → String → Option Value

def Dict.empty : Dict := ⟨fun _ _ => none⟩

/-- One `dict.AddSessionEntry(ctid, field, value)`. -/
structure DictWrite where
  ctid : UInt32
  field : String
  value : Value
  deriving DecidableEq, Repr

def bypassWrite (ctid : UInt32) : DictWrite := ⟨ctid, "bypass_packetd", .bool true⟩

/-- `dict.AddSessionEntry`: last writer wins. -/
def Dict.addSessionEntry (dict : Dict) (write : DictWrite) : Dict :=
  ⟨fun ctid field =>
    if ctid = write.ctid ∧ field = write.field then some write.value else dict.sessions ctid field⟩

/-- `dict sessions ct id flush` in the ruleset: the whole entry of `ctid` goes. -/
def Dict.flushSession (dict : Dict) (ctid : UInt32) : Dict :=
  ⟨fun key field => if key = ctid then none else dict.sessions key field⟩

/-- What the ruleset's `dict sessions ct id bypass_packetd bool true` matches. -/
def Dict.bypassed (dict : Dict) (ctid : UInt32) : Bool :=
  dict.sessions ctid "bypass_packetd" == some (.bool true)

def Dict.addAll (dict : Dict) (writes : List DictWrite) : Dict :=
  writes.foldl Dict.addSessionEntry dict

@[simp] theorem Dict.addSessionEntry_sessions (dict : Dict) (write : DictWrite) (ctid : UInt32)
    (field : String) : (dict.addSessionEntry write).sessions ctid field =
      if ctid = write.ctid ∧ field = write.field then some write.value
      else dict.sessions ctid field := rfl

@[simp] theorem Dict.flushSession_sessions (dict : Dict) (key ctid : UInt32) (field : String) :
    (dict.flushSession ctid).sessions key field =
      if key = ctid then none else dict.sessions key field := rfl

@[simp] theorem Dict.addAll_nil (dict : Dict) : dict.addAll [] = dict := rfl

@[simp] theorem Dict.addAll_cons (dict : Dict) (write : DictWrite) (writes : List DictWrite) :
    dict.addAll (write :: writes) = (dict.addSessionEntry write).addAll writes := rfl

theorem Dict.bypassed_addSessionEntry_bypassWrite (dict : Dict) (ctid : UInt32) :
    (dict.addSessionEntry (bypassWrite ctid)).bypassed ctid = true := by
  simp [Dict.bypassed, bypassWrite]

end Packetd
