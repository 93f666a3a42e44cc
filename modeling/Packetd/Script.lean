import Mathlib.Data.Finmap
import Packetd.Ruleset

/-! The script that installs and removes the packetd rules, run against the kernel's nftables
ruleset. Each nft command changes the ruleset or is refused and changes nothing; the script checks
no command's status, so a refused command drops only its own change. From a ruleset whose packetd
chains, if any, have the script's hooks, `INSERT` with a queue number, or an increasing range, that
nft reads is refused nothing and leaves table `inet packetd` with exactly the chains
`insertPacketdRules` evaluates. Whatever it is given, a second run with the same arguments changes
nothing more: `INSERT` flushes each chain before it adds the chain's rules, and `REMOVE` takes the
table away with everything in it. -/

namespace Packetd

inductive Hook
  | prerouting
  | input
  | forward
  | output
  | postrouting
  deriving DecidableEq, Repr

/-- `{ type T hook H priority P ; }` of a base chain. -/
structure BaseChainSpec where
  type : String
  hook : Hook
  priority : Int
  deriving DecidableEq, Repr

structure NftChain where
  spec : Option BaseChainSpec
  rules : List Rule
  deriving DecidableEq, Repr

@[ext]
structure NftTable where
  chains : Finmap fun _ : String => NftChain

/-- The kernel's ruleset: the tables by family and name. -/
@[ext]
structure Nftables where
  tables : Finmap fun _ : String × String => NftTable

/-- Why a command is refused: the kernel's `ENOENT`, `EEXIST`, `EBUSY` and `EOPNOTSUPP`, or nft's
own rejection of the command's text. -/
inductive NftError
  | noSuchFile
  | fileExists
  | busy
  | notSupported
  | invalid
  deriving DecidableEq, Repr

/-- The nft commands of the script, an `add rule` with its rule as nft parses it. -/
inductive NftCommand
  | addTable (family table : String)
  | addChain (family table chain : String) (spec : Option BaseChainSpec)
  | flushChain (family table chain : String)
  | addRule (family table chain : String) (rule : Rule)
  | deleteChain (family table chain : String)
  | deleteTable (family table : String)
  /-- A command nft rejects before the kernel sees it: text it cannot parse, or a value out of
  range. -/
  | rejected
  deriving DecidableEq, Repr

/-- The names of the chains of table `inet packetd`. -/
def Chain.name : Chain → String
  | .prerouting => "packetd-prerouting"
  | .output => "packetd-output"
  | .input => "packetd-input"
  | .queue => "packetd-queue"

def Rule.gotoTarget (rule : Rule) : Option String :=
  match rule.action with
  | .goto chain => some chain.name
  | _ => none

/-- A `goto` must name a chain of the same table, and not a base chain. -/
def NftTable.checkGoto (t : NftTable) (rule : Rule) : Except NftError Unit :=
  match rule.gotoTarget with
  | none => .ok ()
  | some target =>
      match t.chains.lookup target with
      | none => .error .noSuchFile
      | some dest => if dest.spec.isSome then .error .notSupported else .ok ()

/-- A chain is in use while it holds rules or a rule of its table jumps to it. -/
def NftTable.inUse (t : NftTable) (chain : String) (existing : NftChain) : Bool :=
  !existing.rules.isEmpty ||
    t.chains.any fun _ other => other.rules.any fun rule => rule.gotoTarget == some chain

namespace Nftables

def findTable (s : Nftables) (family table : String) : Except NftError NftTable :=
  match s.tables.lookup (family, table) with
  | none => .error .noSuchFile
  | some t => .ok t

def findChain (s : Nftables) (family table chain : String) :
    Except NftError (NftTable × NftChain) := do
  let t ← s.findTable family table
  match t.chains.lookup chain with
  | none => .error .noSuchFile
  | some existing => .ok (t, existing)

def setChains (s : Nftables) (family table : String)
    (chains : Finmap fun _ : String => NftChain) : Nftables :=
  ⟨s.tables.insert (family, table) ⟨chains⟩⟩

/-- How the kernel handles one command. `add` of a table or chain that exists changes nothing, so
long as a base chain is given the hook it has; `delete` of a chain in use is refused; `delete` of
a table takes its chains and rules with it. -/
def exec (s : Nftables) : NftCommand → Except NftError Nftables
  | .addTable family table =>
      if (family, table) ∈ s.tables then .ok s else .ok (s.setChains family table ∅)
  | .addChain family table chain spec => do
      let t ← s.findTable family table
      match t.chains.lookup chain, spec with
      | none, _ => .ok (s.setChains family table (t.chains.insert chain ⟨spec, []⟩))
      | some _, none => .ok s
      | some existing, some spec =>
          if existing.spec = some spec then .ok s else .error .fileExists
  | .flushChain family table chain => do
      let (t, existing) ← s.findChain family table chain
      .ok (s.setChains family table (t.chains.insert chain { existing with rules := [] }))
  | .addRule family table chain rule => do
      let (t, existing) ← s.findChain family table chain
      t.checkGoto rule
      .ok (s.setChains family table
        (t.chains.insert chain { existing with rules := existing.rules ++ [rule] }))
  | .deleteChain family table chain => do
      let (t, existing) ← s.findChain family table chain
      if t.inUse chain existing then .error .busy
      else .ok (s.setChains family table (t.chains.erase chain))
  | .deleteTable family table =>
      if (family, table) ∈ s.tables then .ok ⟨s.tables.erase (family, table)⟩
      else .error .noSuchFile
  | .rejected => .error .invalid

end Nftables

/-- The commands one after another, as the shell runs them: the script checks no status, so a
refused command leaves the ruleset as it was and the next one runs. -/
def runCommands (s : Nftables) (commands : List NftCommand) : Nftables :=
  commands.foldl (fun s command =>
    match s.exec command with
    | .ok s' => s'
    | .error _ => s) s

/-- The commands one after another, stopping at the first one the kernel refuses. -/
def runChecked (s : Nftables) (commands : List NftCommand) : Except NftError Nftables :=
  commands.foldlM Nftables.exec s

/-! The script. -/

/-- `TABLE_NAME`. -/
def tableName : String := "packetd"

/-- `QUEUE_PRIORITY` and `MANGLE_PRIORITY`. -/
def queuePriority : Int := -145

def manglePriority : Int := -145

/-- `remove_packetd_rules`: its commands' errors go to `/dev/null`. -/
def removePacketdRulesCommands : List NftCommand :=
  [.flushChain "inet" tableName "packetd-prerouting",
   .flushChain "inet" tableName "packetd-input",
   .flushChain "inet" tableName "packetd-output",
   .flushChain "inet" tableName "packetd-queue",
   .deleteChain "inet" tableName "packetd-prerouting",
   .deleteChain "inet" tableName "packetd-input",
   .deleteChain "inet" tableName "packetd-output",
   .deleteChain "inet" tableName "packetd-queue",
   .deleteTable "inet" tableName]

/-- The first part of `insert_packetd_rules`: the table, and its chains, each emptied. -/
def createPacketdChains : List NftCommand :=
  [.addTable "inet" tableName,
   .addChain "inet" tableName "packetd-prerouting" (some ⟨"filter", .prerouting, queuePriority⟩),
   .flushChain "inet" tableName "packetd-prerouting",
   .addChain "inet" tableName "packetd-output" (some ⟨"filter", .output, manglePriority⟩),
   .flushChain "inet" tableName "packetd-output",
   .addChain "inet" tableName "packetd-input" (some ⟨"filter", .input, manglePriority⟩),
   .flushChain "inet" tableName "packetd-input",
   .addChain "inet" tableName "packetd-queue" none,
   .flushChain "inet" tableName "packetd-queue"]

def digitValue (c : Char) : Option Nat :=
  if c.isDigit then some (c.toNat - '0'.toNat)
  else if 'a' ≤ c ∧ c ≤ 'f' then some (c.toNat - 'a'.toNat + 10)
  else if 'A' ≤ c ∧ c ≤ 'F' then some (c.toNat - 'A'.toNat + 10)
  else none

def digitsValue (base : Nat) (digits : List Char) : Option Nat :=
  if digits ≠ [] ∧ digits.all fun c => (digitValue c).any (· < base) then
    some (digits.foldl (fun n c => base * n + (digitValue c).getD 0) 0)
  else none

/-- How nft reads a queue number: a decimal, or a hexadecimal after `0x`, that fits the 16 bits of
`NFTA_QUEUE_NUM`. -/
def queueNumber (text : String) : Option Nat :=
  (match text.data with
   | '0' :: 'x' :: digits => digitsValue 16 digits
   | '0' :: 'X' :: digits => digitsValue 16 digits
   | digits => digitsValue 10 digits).bind fun n => if n < 65536 then some n else none

/-- The queue rule: `counter queue num "$1" bypass` when `"$1" = "$2"`, otherwise
`counter queue num "$1"-"$2" fanout,bypass`. nft rejects a number it cannot read, and a range that
does not increase. -/
def queueCommand (first last : String) : NftCommand :=
  if first = last then
    match queueNumber first with
    | some n => .addRule "inet" tableName "packetd-queue" ⟨[], .queue n n⟩
    | none => .rejected
  else
    match queueNumber first, queueNumber last with
    | some f, some l =>
        if f < l then .addRule "inet" tableName "packetd-queue" ⟨[], .queue f l⟩ else .rejected
    | _, _ => .rejected

/-- The rules of `insert_packetd_rules "$1" "$2"`, with `PACKETD_DEVNET` as nft reads it
(`none` when it is empty). -/
def addPacketdRules (devnet : Option Prefix4) (first last : String) : List NftCommand :=
  [.addRule "inet" tableName "packetd-output" ⟨[.ctState .new], .statement (.ctMarkOr 0x80000000)⟩,
   .addRule "inet" tableName "packetd-output" ⟨[], .goto .queue⟩,
   .addRule "inet" tableName "packetd-input" ⟨[.udpDport 53], .ret⟩,
   .addRule "inet" tableName "packetd-input" ⟨[.tcpDport 53], .ret⟩,
   .addRule "inet" tableName "packetd-input" ⟨[.ctState .new], .statement (.ctMarkOr 0x80000000)⟩,
   .addRule "inet" tableName "packetd-prerouting" ⟨[], .goto .queue⟩,
   .addRule "inet" tableName "packetd-queue" ⟨[.ctState .new], .statement .flushSession⟩,
   .addRule "inet" tableName "packetd-queue" ⟨[.ipSaddr loopbackNet], .ret⟩,
   .addRule "inet" tableName "packetd-queue" ⟨[.ipDaddr loopbackNet], .ret⟩,
   .addRule "inet" tableName "packetd-queue" ⟨[.ip6Saddr ipv6Loopback], .ret⟩,
   .addRule "inet" tableName "packetd-queue" ⟨[.ip6Daddr ipv6Loopback], .ret⟩] ++
  (match devnet with
   | some net =>
      [.addRule "inet" tableName "packetd-queue" ⟨[.ipSaddr net], .ret⟩,
       .addRule "inet" tableName "packetd-queue" ⟨[.ipDaddr net], .ret⟩]
   | none => []) ++
  [.addRule "inet" tableName "packetd-queue" ⟨[.ctState .invalid], .ret⟩,
   .addRule "inet" tableName "packetd-queue" ⟨[.ctState .untracked], .ret⟩,
   .addRule "inet" tableName "packetd-queue" ⟨[.sessionsBypass], .ret⟩,
   .addRule "inet" tableName "packetd-queue" ⟨[.ctMarkAnd 0x80000000 0x80000000], .ret⟩,
   .addRule "inet" tableName "packetd-queue" ⟨[.fibSaddrType .anycast], .ret⟩,
   .addRule "inet" tableName "packetd-queue" ⟨[.fibDaddrType .anycast], .ret⟩,
   .addRule "inet" tableName "packetd-queue" ⟨[.fibSaddrType .broadcast], .ret⟩,
   .addRule "inet" tableName "packetd-queue" ⟨[.fibDaddrType .broadcast], .ret⟩,
   .addRule "inet" tableName "packetd-queue" ⟨[.fibSaddrType .multicast], .ret⟩,
   .addRule "inet" tableName "packetd-queue" ⟨[.fibDaddrType .multicast], .ret⟩,
   .addRule "inet" tableName "packetd-queue" ⟨[.ctPacketsAbove 256], .ret⟩,
   .addRule "inet" tableName "packetd-queue" ⟨[.ctState .new], .statement (.markOr 0x10000000)⟩,
   queueCommand first last]

/-- `insert_packetd_rules "$1" "$2"`. -/
def insertPacketdRulesCommands (devnet : Option Prefix4) (first last : String) :
    List NftCommand :=
  createPacketdChains ++ addPacketdRules devnet first last

/-- What the script prints: a message, or, with `NFT=echo`, a command. -/
inductive Printed
  | text (message : String)
  | command (command : NftCommand)
  deriving DecidableEq, Repr

structure ScriptRun where
  status : Nat
  stdout : List Printed
  nftables : Nftables

/-- `${NFT} ...` for each command: nft runs them, or with `NFT=echo` they are printed. -/
def nft (test : Bool) (commands : List NftCommand) (s : Nftables) : List Printed × Nftables :=
  if test then (commands.map .command, s) else ([], runCommands s commands)

/-- A blank for the shell's field splitting with the default `IFS`. -/
def isBlank (c : Char) : Bool := c == ' ' || c == '\t' || c == '\n'

/-- The fields of an unquoted expansion: the words between runs of blanks. -/
def fields (text : String) : List String :=
  ((text.data.splitOnP isBlank).filter (· ≠ [])).map String.mk

/-- `[ -z $1 ]`: `test` gets `-z` and the fields of `$1`. POSIX fixes the result for up to two
fields: with none it tests the string `-z`, which is not empty; with one, that field, never empty;
with two, the first is a binary primary between `-z` and the second (`=`, `!=`, or the `-a` and
`-o` of two non-empty strings) or an error, false to `if`. -/
def zeroTest : List String → Bool
  | [] => true
  | [_] => false
  | [primary, operand] =>
      if primary = "=" then "-z" = operand
      else if primary = "!=" then "-z" ≠ operand
      else primary = "-a" || primary = "-o"
  | _ => false

/-- The script, run by user `uid` with the arguments `args`, where `devnet` is `PACKETD_DEVNET`
once the configuration file is sourced. `insert_packetd_rules $2 $3` gets the fields of `$2` and
`$3` as its positional arguments. -/
def packetdRulesScript (uid : Nat) (devnet : Option Prefix4) (args : List String)
    (s : Nftables) : ScriptRun :=
  if uid ≠ 0 then ⟨1, [.text "\n  ERROR: You must be root to run this script\n\n"], s⟩
  else if zeroTest (fields (args.getD 0 "")) then
    ⟨2, [.text "Missing INSERT or REMOVE directive\n"], s⟩
  else if args.getD 0 "" = "REMOVE" then
    ⟨0, [.text "The packetd netfilter rules have been removed\n"],
      runCommands s removePacketdRulesCommands⟩
  else if args.getD 0 "" ≠ "INSERT" then
    ⟨3, [.text "The first argument must be INSERT or REMOVE\n"], s⟩
  else if args.getD 1 "" = "" then ⟨4, [.text "The queue range start value is missing\n"], s⟩
  else if args.getD 2 "" = "" then ⟨5, [.text "The queue range end value is missing\n"], s⟩
  else
    let params := fields (args.getD 1 "") ++ fields (args.getD 2 "")
    let (printed, s') := nft (args.getD 3 "" = "test")
      (insertPacketdRulesCommands devnet (params.getD 0 "") (params.getD 1 "")) s
    ⟨0, printed ++ [.text "The packetd netfilter rules have been inserted\n"], s'⟩

/-! Finite maps: erasing a key forgets what was inserted there. -/

theorem finmap_erase_insert {α : Type} [DecidableEq α] {β : α → Type} (m : Finmap β) (a : α)
    (b : β a) : (m.insert a b).erase a = m.erase a :=
  Finmap.ext_lookup fun x => by
    by_cases same : x = a
    · subst same
      rw [Finmap.lookup_erase, Finmap.lookup_erase]
    · rw [Finmap.lookup_erase_ne same, Finmap.lookup_erase_ne same,
        Finmap.lookup_insert_of_ne _ same]

theorem finmap_erase_of_not_mem {α : Type} [DecidableEq α] {β : α → Type} {m : Finmap β} {a : α}
    (absent : a ∉ m) : m.erase a = m :=
  Finmap.ext_lookup fun x => by
    by_cases same : x = a
    · subst same
      rw [Finmap.lookup_erase, Finmap.lookup_eq_none.2 absent]
    · rw [Finmap.lookup_erase_ne same]

theorem finmap_insert_lookup {α : Type} [DecidableEq α] {β : α → Type} {m : Finmap β} {a : α}
    {b : β a} (found : m.lookup a = some b) : m.insert a b = m :=
  Finmap.ext_lookup fun x => by
    by_cases same : x = a
    · subst same
      rw [Finmap.lookup_insert, found]
    · rw [Finmap.lookup_insert_of_ne _ same]

@[simp] theorem except_ok_bind {ε α β : Type} (a : α) (f : α → Except ε β) :
    (Except.ok a >>= f : Except ε β) = f a := rfl

@[simp] theorem except_error_bind {ε α β : Type} (e : ε) (f : α → Except ε β) :
    (Except.error e >>= f : Except ε β) = .error e := rfl

namespace Nftables

def chainsOf (s : Nftables) (family table : String) : Finmap fun _ : String => NftChain :=
  ((s.tables.lookup (family, table)).map NftTable.chains).getD ∅

@[simp] theorem setChains_setChains (s : Nftables) (family table : String)
    (first second : Finmap fun _ : String => NftChain) :
    (s.setChains family table first).setChains family table second =
      s.setChains family table second :=
  Nftables.ext (Finmap.insert_insert _)

@[simp] theorem chainsOf_setChains (s : Nftables) (family table : String)
    (chains : Finmap fun _ : String => NftChain) :
    (s.setChains family table chains).chainsOf family table = chains := by
  simp [chainsOf, setChains, Finmap.lookup_insert]

theorem setChains_lookup_ne (s : Nftables) {family table : String}
    (chains : Finmap fun _ : String => NftChain) {key : String × String}
    (other : key ≠ (family, table)) :
    (s.setChains family table chains).tables.lookup key = s.tables.lookup key :=
  Finmap.lookup_insert_of_ne _ other

@[simp] theorem findTable_setChains (s : Nftables) (family table : String)
    (chains : Finmap fun _ : String => NftChain) :
    (s.setChains family table chains).findTable family table = .ok ⟨chains⟩ := by
  simp [findTable, setChains, Finmap.lookup_insert]

theorem findChain_setChains (s : Nftables) (family table : String)
    {chains : Finmap fun _ : String => NftChain} {chain : String} {existing : NftChain}
    (found : chains.lookup chain = some existing) :
    (s.setChains family table chains).findChain family table chain =
      .ok (⟨chains⟩, existing) := by
  simp only [findChain, findTable_setChains, except_ok_bind, found]

theorem exec_addTable (s : Nftables) (family table : String) :
    s.exec (.addTable family table) = .ok (s.setChains family table (s.chainsOf family table)) := by
  by_cases present : (family, table) ∈ s.tables
  · obtain ⟨t, found⟩ := Finmap.mem_iff.1 present
    simp only [exec, present, ↓reduceIte, Except.ok.injEq]
    refine Nftables.ext ?_
    simp only [setChains, chainsOf, found, Option.map_some', Option.getD_some]
    exact (finmap_insert_lookup found).symm
  · simp [exec, present, chainsOf, Finmap.lookup_eq_none.2 present]

theorem exec_addChain_flushChain (s : Nftables) (family table chain : String)
    (spec : Option BaseChainSpec) (chains : Finmap fun _ : String => NftChain)
    (fits : ∀ existing, chains.lookup chain = some existing → existing.spec = spec) :
    runChecked (s.setChains family table chains)
        [.addChain family table chain spec, .flushChain family table chain] =
      .ok (s.setChains family table (chains.insert chain ⟨spec, []⟩)) := by
  cases found : chains.lookup chain with
  | none =>
      simp [runChecked, exec, found, findChain_setChains _ _ _ (Finmap.lookup_insert _)]
  | some existing =>
      have same := fits existing found
      have added : (s.setChains family table chains).exec (.addChain family table chain spec) =
          .ok (s.setChains family table chains) := by
        cases spec <;> simp [exec, found, same]
      simp only [runChecked, List.foldlM_cons, added, except_ok_bind]
      simp [exec, findChain_setChains _ _ _ found, ← same]

end Nftables

/-! `INSERT`. -/

/-- The spec `insert_packetd_rules` gives each chain. -/
def Chain.spec : Chain → Option BaseChainSpec
  | .prerouting => some ⟨"filter", .prerouting, queuePriority⟩
  | .output => some ⟨"filter", .output, manglePriority⟩
  | .input => some ⟨"filter", .input, manglePriority⟩
  | .queue => none

def Chain.all : List Chain := [.prerouting, .output, .input, .queue]

theorem Chain.name_injective {chain chain' : Chain} (same : chain.name = chain'.name) :
    chain = chain' := by
  revert same
  cases chain <;> cases chain' <;> decide

def withPacketdChains (rules : Chain → List Rule) (chains : Finmap fun _ : String => NftChain) :
    Finmap fun _ : String => NftChain :=
  Chain.all.foldl (fun chains chain => chains.insert chain.name ⟨chain.spec, rules chain⟩) chains

theorem lookup_withPacketdChains (rules : Chain → List Rule)
    (chains : Finmap fun _ : String => NftChain) (chain : Chain) :
    (withPacketdChains rules chains).lookup chain.name = some ⟨chain.spec, rules chain⟩ := by
  cases chain <;>
    simp [withPacketdChains, Chain.all, Chain.name, Finmap.lookup_insert,
      Finmap.lookup_insert_of_ne]

theorem lookup_withPacketdChains_other (rules : Chain → List Rule)
    (chains : Finmap fun _ : String => NftChain) {name : String}
    (other : ∀ chain : Chain, chain.name ≠ name) :
    (withPacketdChains rules chains).lookup name = chains.lookup name := by
  simp only [withPacketdChains, Chain.all, List.foldl_cons, List.foldl_nil]
  rw [Finmap.lookup_insert_of_ne _ (other .queue).symm,
    Finmap.lookup_insert_of_ne _ (other .input).symm,
    Finmap.lookup_insert_of_ne _ (other .output).symm,
    Finmap.lookup_insert_of_ne _ (other .prerouting).symm]

/-- The ruleset `INSERT` leaves: table `inet packetd` holds its four chains, each with its spec
and the rules `insertPacketdRules` evaluates, beside whatever other chains the table had; every
other table is as it was. -/
def installed (devnet : Option Prefix4) (first last : Nat) (s : Nftables) : Nftables :=
  s.setChains "inet" tableName
    (withPacketdChains (insertPacketdRules devnet first last) (s.chainsOf "inet" tableName))

/-- The packetd chains that exist have the specs the script gives them. -/
def Compatible (s : Nftables) : Prop :=
  ∀ (chain : Chain) existing, (s.chainsOf "inet" tableName).lookup chain.name = some existing →
    existing.spec = chain.spec

theorem runChecked_append (s : Nftables) (first second : List NftCommand) :
    runChecked s (first ++ second) = runChecked s first >>= fun s' => runChecked s' second :=
  List.foldlM_append _ _ _ _

theorem createPacketdChains_eq :
    createPacketdChains = .addTable "inet" tableName :: Chain.all.flatMap fun chain =>
      [.addChain "inet" tableName chain.name chain.spec, .flushChain "inet" tableName chain.name] :=
  rfl

theorem runChecked_createChains (s : Nftables) (chains : Finmap fun _ : String => NftChain)
    (created : List Chain) (distinct : (created.map Chain.name).Nodup)
    (fits : ∀ chain ∈ created, ∀ existing, chains.lookup chain.name = some existing →
      existing.spec = chain.spec) :
    runChecked (s.setChains "inet" tableName chains) (created.flatMap fun chain =>
        [.addChain "inet" tableName chain.name chain.spec,
          .flushChain "inet" tableName chain.name]) =
      .ok (s.setChains "inet" tableName (created.foldl
        (fun chains chain => chains.insert chain.name ⟨chain.spec, []⟩) chains)) := by
  induction created generalizing chains with
  | nil => rfl
  | cons chain rest ih =>
      rw [List.map_cons, List.nodup_cons] at distinct
      rw [List.flatMap_cons, runChecked_append,
        Nftables.exec_addChain_flushChain _ _ _ _ _ _ (fits chain (List.mem_cons_self _ _)),
        except_ok_bind, ih _ distinct.2]
      · rfl
      · intro other member existing found
        have differs : other.name ≠ chain.name := fun same =>
          distinct.1 (same ▸ List.mem_map_of_mem _ member)
        rw [Finmap.lookup_insert_of_ne _ differs] at found
        exact fits other (List.mem_cons_of_mem _ member) existing found

theorem runChecked_createPacketdChains {s : Nftables} (compatible : Compatible s) :
    runChecked s createPacketdChains =
      .ok (s.setChains "inet" tableName
        (withPacketdChains (fun _ => []) (s.chainsOf "inet" tableName))) := by
  rw [createPacketdChains_eq, ← List.singleton_append, runChecked_append]
  simp only [runChecked, List.foldlM_cons, List.foldlM_nil, Nftables.exec_addTable]
  exact runChecked_createChains _ _ _ (by decide) fun chain _ => compatible chain

def NftCommand.addsPacketdRule : NftCommand → Bool
  | .addRule family table chain rule =>
      family == "inet" && table == tableName && Chain.all.any (·.name == chain) &&
        (rule.gotoTarget == none || rule.gotoTarget == some Chain.queue.name)
  | _ => false

theorem NftCommand.addsPacketdRule_cases {command : NftCommand}
    (fits : command.addsPacketdRule = true) :
    ∃ chain : Chain, ∃ rule : Rule, command = .addRule "inet" tableName chain.name rule ∧
      (rule.gotoTarget = none ∨ rule.gotoTarget = some Chain.queue.name) := by
  cases command with
  | addRule family table chain rule =>
      simp only [NftCommand.addsPacketdRule, Bool.and_eq_true, beq_iff_eq, List.any_eq_true,
        Bool.or_eq_true] at fits
      obtain ⟨⟨⟨rfl, rfl⟩, named, -, rfl⟩, target⟩ := fits
      exact ⟨named, rule, rfl, target⟩
  | _ => exact absurd fits Bool.false_ne_true

def addedRules (commands : List NftCommand) (chain : String) : List Rule :=
  commands.filterMap fun
    | .addRule family table chain' rule =>
        if family = "inet" ∧ table = tableName ∧ chain' = chain then some rule else none
    | _ => none

theorem checkGoto_packetd {chains : Finmap fun _ : String => NftChain}
    (shaped : ∀ chain : Chain, ∃ existing, chains.lookup chain.name = some existing ∧
      existing.spec = chain.spec)
    {rule : Rule} (target : rule.gotoTarget = none ∨ rule.gotoTarget = some Chain.queue.name) :
    NftTable.checkGoto ⟨chains⟩ rule = .ok () := by
  obtain ⟨dest, found, spec⟩ := shaped .queue
  rcases target with none | queue
  · simp [NftTable.checkGoto, none]
  · simp [NftTable.checkGoto, queue, found, spec, Chain.spec]

theorem runChecked_addRules (s : Nftables) (commands : List NftCommand)
    (fits : commands.all NftCommand.addsPacketdRule = true) :
    ∀ chains : Finmap fun _ : String => NftChain,
      (∀ chain : Chain, ∃ existing, chains.lookup chain.name = some existing ∧
        existing.spec = chain.spec) →
      ∃ chains', runChecked (s.setChains "inet" tableName chains) commands =
          .ok (s.setChains "inet" tableName chains') ∧
        ∀ name, chains'.lookup name = (chains.lookup name).map fun existing =>
          { existing with rules := existing.rules ++ addedRules commands name } := by
  induction commands with
  | nil =>
      intro chains _
      refine ⟨chains, rfl, fun name => ?_⟩
      cases chains.lookup name <;> simp [addedRules]
  | cons command rest ih =>
      intro chains shaped
      rw [List.all_cons, Bool.and_eq_true] at fits
      obtain ⟨named, rule, rfl, target⟩ := NftCommand.addsPacketdRule_cases fits.1
      obtain ⟨existing, found, spec⟩ := shaped named
      let chains₂ := chains.insert named.name { existing with rules := existing.rules ++ [rule] }
      have shaped₂ : ∀ chain : Chain, ∃ existing, chains₂.lookup chain.name = some existing ∧
          existing.spec = chain.spec := by
        intro chain
        by_cases same : chain = named
        · subst same
          exact ⟨_, Finmap.lookup_insert _, spec⟩
        · rw [Finmap.lookup_insert_of_ne _ fun named' => same (Chain.name_injective named')]
          exact shaped chain
      have step : (s.setChains "inet" tableName chains).exec
          (.addRule "inet" tableName named.name rule) =
            .ok ((s.setChains "inet" tableName chains).setChains "inet" tableName chains₂) := by
        simp only [Nftables.exec, Nftables.findChain_setChains _ _ _ found, except_ok_bind,
          checkGoto_packetd shaped target]
      obtain ⟨chains', ran, lookups⟩ := ih fits.2 chains₂ shaped₂
      refine ⟨chains', ?_, fun name => ?_⟩
      · rw [runChecked, List.foldlM_cons, step, except_ok_bind, Nftables.setChains_setChains]
        exact ran
      · rw [lookups name]
        by_cases same : name = named.name
        · subst same
          simp [chains₂, found, Finmap.lookup_insert, addedRules]
        · simp [chains₂, Finmap.lookup_insert_of_ne _ same, addedRules, Ne.symm same]

theorem queueCommand_parsed {first last : String} {f l : Nat}
    (parsedFirst : queueNumber first = some f) (parsedLast : queueNumber last = some l)
    (ordered : first = last ∨ f < l) :
    queueCommand first last = .addRule "inet" tableName "packetd-queue" ⟨[], .queue f l⟩ := by
  unfold queueCommand
  split
  · next same =>
      subst same
      rw [parsedFirst, Option.some_inj] at parsedLast
      subst parsedLast
      simp [parsedFirst]
  · next differs => simp [parsedFirst, parsedLast, ordered.resolve_left differs]

section Parsed

variable (devnet : Option Prefix4) {first last : String} {f l : Nat}
  (parsedFirst : queueNumber first = some f) (parsedLast : queueNumber last = some l)
  (ordered : first = last ∨ f < l)
include parsedFirst parsedLast ordered

theorem addPacketdRules_fits :
    (addPacketdRules devnet first last).all NftCommand.addsPacketdRule = true := by
  unfold addPacketdRules
  rw [queueCommand_parsed parsedFirst parsedLast ordered]
  cases devnet <;> rfl

theorem addedRules_addPacketdRules (chain : Chain) :
    addedRules (addPacketdRules devnet first last) chain.name =
      insertPacketdRules devnet f l chain := by
  unfold addPacketdRules
  rw [queueCommand_parsed parsedFirst parsedLast ordered]
  cases chain <;> cases devnet <;> rfl

end Parsed

theorem addedRules_other {commands : List NftCommand}
    (fits : commands.all NftCommand.addsPacketdRule = true) {name : String}
    (other : ∀ chain : Chain, chain.name ≠ name) : addedRules commands name = [] := by
  induction commands with
  | nil => rfl
  | cons command rest ih =>
      rw [List.all_cons, Bool.and_eq_true] at fits
      obtain ⟨named, rule, rfl, -⟩ := NftCommand.addsPacketdRule_cases fits.1
      simpa [addedRules, other named] using ih fits.2

theorem runChecked_insertPacketdRulesCommands {s : Nftables} (compatible : Compatible s)
    (devnet : Option Prefix4) {first last : String} {f l : Nat}
    (parsedFirst : queueNumber first = some f) (parsedLast : queueNumber last = some l)
    (ordered : first = last ∨ f < l) :
    runChecked s (insertPacketdRulesCommands devnet first last) = .ok (installed devnet f l s) := by
  have fits := addPacketdRules_fits devnet parsedFirst parsedLast ordered
  obtain ⟨chains, ran, lookups⟩ := runChecked_addRules s _ fits
    (withPacketdChains (fun _ => []) (s.chainsOf "inet" tableName))
    fun chain => ⟨_, lookup_withPacketdChains _ _ chain, rfl⟩
  rw [insertPacketdRulesCommands, runChecked_append, runChecked_createPacketdChains compatible,
    except_ok_bind, ran, installed]
  refine congrArg Except.ok (congrArg (s.setChains "inet" tableName)
    (Finmap.ext_lookup fun name => ?_))
  rw [lookups]
  by_cases named : ∃ chain : Chain, chain.name = name
  · obtain ⟨chain, rfl⟩ := named
    rw [lookup_withPacketdChains, lookup_withPacketdChains,
      addedRules_addPacketdRules devnet parsedFirst parsedLast ordered]
    rfl
  · push_neg at named
    rw [lookup_withPacketdChains_other _ _ named, lookup_withPacketdChains_other _ _ named,
      addedRules_other fits named]
    cases (s.chainsOf "inet" tableName).lookup name <;> simp

theorem runCommands_of_runChecked {s s' : Nftables} {commands : List NftCommand}
    (checked : runChecked s commands = .ok s') : runCommands s commands = s' := by
  induction commands generalizing s with
  | nil => exact (Except.ok.inj checked).symm ▸ rfl
  | cons command rest ih =>
      rw [runChecked, List.foldlM_cons] at checked
      cases step : s.exec command with
      | error e => rw [step] at checked; cases checked
      | ok s₁ =>
          rw [step, except_ok_bind] at checked
          simp only [runCommands, List.foldl_cons, step]
          exact ih checked

theorem runCommands_append (s : Nftables) (first second : List NftCommand) :
    runCommands s (first ++ second) = runCommands (runCommands s first) second :=
  List.foldl_append _ _ _ _

/-! `INSERT` again, from any ruleset. The chain phase takes every ruleset to one normal form:
the table there, each packetd chain there, with the spec it had or else the script's, and empty.
Adding rules to the packetd chains leaves that normal form as it was, so a second run's rule
phase starts where the first one's did, and nft refuses there what it refused the first time. -/

def preparedChains (chains : Finmap fun _ : String => NftChain) :
    Finmap fun _ : String => NftChain :=
  Chain.all.foldl (fun chains chain => chains.insert chain.name
    ⟨((chains.lookup chain.name).map NftChain.spec).getD chain.spec, []⟩) chains

/-- What the chain phase leaves of the ruleset. -/
def Nftables.prepared (s : Nftables) : Nftables :=
  s.setChains "inet" tableName (preparedChains (s.chainsOf "inet" tableName))

theorem lookup_preparedChains (chains : Finmap fun _ : String => NftChain) (chain : Chain) :
    (preparedChains chains).lookup chain.name =
      some ⟨((chains.lookup chain.name).map NftChain.spec).getD chain.spec, []⟩ := by
  cases chain <;>
    simp [preparedChains, Chain.all, Chain.name, Finmap.lookup_insert, Finmap.lookup_insert_of_ne]

theorem lookup_preparedChains_other (chains : Finmap fun _ : String => NftChain) {name : String}
    (other : ∀ chain : Chain, chain.name ≠ name) :
    (preparedChains chains).lookup name = chains.lookup name := by
  simp only [preparedChains, Chain.all, List.foldl_cons, List.foldl_nil]
  rw [Finmap.lookup_insert_of_ne _ (other .queue).symm,
    Finmap.lookup_insert_of_ne _ (other .input).symm,
    Finmap.lookup_insert_of_ne _ (other .output).symm,
    Finmap.lookup_insert_of_ne _ (other .prerouting).symm]

theorem preparedChains_insert (chains : Finmap fun _ : String => NftChain) (chain : Chain)
    {existing : NftChain} (found : chains.lookup chain.name = some existing) (rules : List Rule) :
    preparedChains (chains.insert chain.name { existing with rules := rules }) =
      preparedChains chains := by
  refine Finmap.ext_lookup fun name => ?_
  by_cases named : ∃ c : Chain, c.name = name
  · obtain ⟨c, rfl⟩ := named
    rw [lookup_preparedChains, lookup_preparedChains]
    by_cases same : c = chain
    · subst same
      rw [Finmap.lookup_insert, found]
      rfl
    · rw [Finmap.lookup_insert_of_ne _ fun named => same (Chain.name_injective named)]
  · push_neg at named
    rw [lookup_preparedChains_other _ named, lookup_preparedChains_other _ named,
      Finmap.lookup_insert_of_ne _ (named chain).symm]

theorem preparedChains_preparedChains (chains : Finmap fun _ : String => NftChain) :
    preparedChains (preparedChains chains) = preparedChains chains := by
  refine Finmap.ext_lookup fun name => ?_
  by_cases named : ∃ c : Chain, c.name = name
  · obtain ⟨c, rfl⟩ := named
    rw [lookup_preparedChains, lookup_preparedChains]
    rfl
  · push_neg at named
    rw [lookup_preparedChains_other _ named, lookup_preparedChains_other _ named]

theorem prepared_prepared (s : Nftables) : s.prepared.prepared = s.prepared := by
  rw [Nftables.prepared, Nftables.prepared, Nftables.chainsOf_setChains,
    Nftables.setChains_setChains, preparedChains_preparedChains]

theorem runCommands_addChain_flushChain (s : Nftables) (chains : Finmap fun _ : String => NftChain)
    (chain : Chain) :
    runCommands (s.setChains "inet" tableName chains)
        [.addChain "inet" tableName chain.name chain.spec,
          .flushChain "inet" tableName chain.name] =
      s.setChains "inet" tableName (chains.insert chain.name
        ⟨((chains.lookup chain.name).map NftChain.spec).getD chain.spec, []⟩) := by
  cases found : chains.lookup chain.name with
  | none =>
      simp [runCommands, Nftables.exec, found,
        Nftables.findChain_setChains _ _ _ (Finmap.lookup_insert _)]
  | some existing =>
      have kept : runCommands (s.setChains "inet" tableName chains)
          [.addChain "inet" tableName chain.name chain.spec] =
            s.setChains "inet" tableName chains := by
        simp only [runCommands, List.foldl_cons, List.foldl_nil, Nftables.exec,
          Nftables.findTable_setChains, except_ok_bind, found]
        cases chain.spec with
        | none => rfl
        | some spec => by_cases same : existing.spec = some spec <;> simp [same]
      rw [← List.singleton_append, runCommands_append, kept]
      simp [runCommands, Nftables.exec, Nftables.findChain_setChains _ _ _ found]

theorem runCommands_createChains (s : Nftables) (chains : Finmap fun _ : String => NftChain)
    (created : List Chain) :
    runCommands (s.setChains "inet" tableName chains) (created.flatMap fun chain =>
        [.addChain "inet" tableName chain.name chain.spec,
          .flushChain "inet" tableName chain.name]) =
      s.setChains "inet" tableName (created.foldl (fun chains chain => chains.insert chain.name
        ⟨((chains.lookup chain.name).map NftChain.spec).getD chain.spec, []⟩) chains) := by
  induction created generalizing chains with
  | nil => rfl
  | cons chain rest ih =>
      rw [List.flatMap_cons, runCommands_append, runCommands_addChain_flushChain, ih]
      rfl

theorem runCommands_createPacketdChains (s : Nftables) :
    runCommands s createPacketdChains = s.prepared := by
  rw [createPacketdChains_eq, ← List.singleton_append, runCommands_append]
  have added : runCommands s [.addTable "inet" tableName] =
      s.setChains "inet" tableName (s.chainsOf "inet" tableName) := by
    simp [runCommands, Nftables.exec_addTable]
  rw [added, runCommands_createChains]
  rfl

def NftCommand.onPacketdChain : NftCommand → Bool
  | .addRule family table chain _ =>
      family == "inet" && table == tableName && Chain.all.any (·.name == chain)
  | .rejected => true
  | _ => false

theorem addPacketdRules_onPacketdChain (devnet : Option Prefix4) (first last : String) :
    (addPacketdRules devnet first last).all NftCommand.onPacketdChain = true := by
  have queue : (queueCommand first last).onPacketdChain = true := by
    unfold queueCommand
    split
    · split <;> rfl
    · split
      · split <;> rfl
      · rfl
  unfold addPacketdRules
  cases devnet <;>
    simp only [List.all_append, List.all_cons, List.all_nil, queue, Bool.and_true] <;> rfl

theorem exec_onPacketdChain {s s' : Nftables} {command : NftCommand}
    (onChain : command.onPacketdChain = true) (ran : s.exec command = .ok s') :
    ∃ chain : Chain, ∃ existing rule,
      (s.chainsOf "inet" tableName).lookup chain.name = some existing ∧
      s' = s.setChains "inet" tableName ((s.chainsOf "inet" tableName).insert chain.name
        { existing with rules := existing.rules ++ [rule] }) := by
  cases command with
  | addRule family table chain rule =>
      simp only [NftCommand.onPacketdChain, Bool.and_eq_true, beq_iff_eq, List.any_eq_true]
        at onChain
      obtain ⟨⟨rfl, rfl⟩, named, -, rfl⟩ := onChain
      simp only [Nftables.exec] at ran
      cases found : s.findChain "inet" tableName named.name with
      | error e => rw [found] at ran; cases ran
      | ok pair =>
          obtain ⟨t, existing⟩ := pair
          rw [found, except_ok_bind] at ran
          unfold Nftables.findChain Nftables.findTable at found
          cases table : s.tables.lookup ("inet", tableName) with
          | none => rw [table] at found; cases found
          | some t' =>
              rw [table, except_ok_bind] at found
              split at found
              · cases found
              · next existing' chainFound =>
                  cases found
                  have chains : s.chainsOf "inet" tableName = t.chains := by
                    simp [Nftables.chainsOf, table]
                  dsimp only at ran
                  cases goto : t.checkGoto rule with
                  | error e => rw [goto] at ran; cases ran
                  | ok u =>
                      rw [goto, except_ok_bind] at ran
                      cases ran
                      exact ⟨named, existing, rule, chains ▸ chainFound, by rw [chains]⟩
  | rejected => cases ran
  | _ => cases onChain

theorem prepared_runCommands (s : Nftables) {commands : List NftCommand}
    (onChain : commands.all NftCommand.onPacketdChain = true) :
    (runCommands s commands).prepared = s.prepared := by
  induction commands generalizing s with
  | nil => rfl
  | cons command rest ih =>
      rw [List.all_cons, Bool.and_eq_true] at onChain
      simp only [runCommands, List.foldl_cons]
      split
      · next s₁ ran =>
          refine (ih s₁ onChain.2).trans ?_
          obtain ⟨chain, existing, rule, found, rfl⟩ := exec_onPacketdChain onChain.1 ran
          rw [Nftables.prepared, Nftables.prepared, Nftables.chainsOf_setChains,
            Nftables.setChains_setChains, preparedChains_insert _ _ found]
      · exact ih s onChain.2

theorem runCommands_setChains_onPacketdChain (s : Nftables) {commands : List NftCommand}
    (onChain : commands.all NftCommand.onPacketdChain = true)
    (chains : Finmap fun _ : String => NftChain) :
    ∃ chains', runCommands (s.setChains "inet" tableName chains) commands =
      s.setChains "inet" tableName chains' := by
  induction commands generalizing chains with
  | nil => exact ⟨chains, rfl⟩
  | cons command rest ih =>
      rw [List.all_cons, Bool.and_eq_true] at onChain
      simp only [runCommands, List.foldl_cons]
      split
      · next s₁ ran =>
          obtain ⟨chain, existing, rule, -, rfl⟩ := exec_onPacketdChain onChain.1 ran
          rw [Nftables.setChains_setChains]
          exact ih onChain.2 _
      · exact ih onChain.2 chains

theorem runCommands_insertPacketdRulesCommands_twice (s : Nftables) (devnet : Option Prefix4)
    (first last : String) :
    runCommands (runCommands s (insertPacketdRulesCommands devnet first last))
        (insertPacketdRulesCommands devnet first last) =
      runCommands s (insertPacketdRulesCommands devnet first last) := by
  simp only [insertPacketdRulesCommands, runCommands_append, runCommands_createPacketdChains]
  rw [prepared_runCommands _ (addPacketdRules_onPacketdChain devnet first last), prepared_prepared]

theorem runCommands_insertPacketdRulesCommands_setChains (s : Nftables) (devnet : Option Prefix4)
    (first last : String) :
    ∃ chains, runCommands s (insertPacketdRulesCommands devnet first last) =
      s.setChains "inet" tableName chains := by
  rw [insertPacketdRulesCommands, runCommands_append, runCommands_createPacketdChains,
    Nftables.prepared]
  exact runCommands_setChains_onPacketdChain s (addPacketdRules_onPacketdChain devnet first last) _

/-! `REMOVE`. -/

def ChainsOnly (family table : String) (s s' : Nftables) : Prop :=
  s' = s ∨ ∃ chains, (family, table) ∈ s.tables ∧ s' = s.setChains family table chains

theorem ChainsOnly.trans {family table : String} {s s₁ s₂ : Nftables}
    (first : ChainsOnly family table s s₁) (second : ChainsOnly family table s₁ s₂) :
    ChainsOnly family table s s₂ := by
  rcases first with rfl | ⟨chains, present, rfl⟩
  · exact second
  · rcases second with rfl | ⟨chains', -, rfl⟩
    · exact .inr ⟨chains, present, rfl⟩
    · exact .inr ⟨chains', present, Nftables.setChains_setChains _ _ _ _ _⟩

theorem findChain_present {s : Nftables} {family table chain : String}
    {found : NftTable × NftChain} (ok : s.findChain family table chain = .ok found) :
    (family, table) ∈ s.tables := by
  unfold Nftables.findChain Nftables.findTable at ok
  cases lookup : s.tables.lookup (family, table) with
  | none => rw [lookup] at ok; cases ok
  | some t => exact Finmap.mem_of_lookup_eq_some lookup

theorem exec_chainCommand {s s' : Nftables} {family table chain : String} {command : NftCommand}
    (onChain : command = .flushChain family table chain ∨ command = .deleteChain family table chain)
    (ran : s.exec command = .ok s') : ChainsOnly family table s s' := by
  cases found : s.findChain family table chain with
  | error e => rcases onChain with rfl | rfl <;> simp [Nftables.exec, found] at ran
  | ok pair =>
      have present := findChain_present found
      rcases onChain with rfl | rfl <;> simp only [Nftables.exec, found, except_ok_bind] at ran
      · exact .inr ⟨_, present, (Except.ok.inj ran).symm⟩
      · split at ran
        · cases ran
        · exact .inr ⟨_, present, (Except.ok.inj ran).symm⟩

theorem runCommands_chainCommands (family table : String) (commands : List NftCommand)
    (onChains : ∀ command ∈ commands, ∃ chain, command = .flushChain family table chain ∨
      command = .deleteChain family table chain) (s : Nftables) :
    ChainsOnly family table s (runCommands s commands) := by
  induction commands generalizing s with
  | nil => exact .inl rfl
  | cons command rest ih =>
      obtain ⟨chain, onChain⟩ := onChains command (List.mem_cons_self _ _)
      have restOn := fun command member => onChains command (List.mem_cons_of_mem _ member)
      simp only [runCommands, List.foldl_cons]
      split
      · next s₁ step => exact (exec_chainCommand onChain step).trans (ih restOn s₁)
      · exact ih restOn s

theorem runCommands_removePacketdRulesCommands (s : Nftables) :
    runCommands s removePacketdRulesCommands = ⟨s.tables.erase ("inet", tableName)⟩ := by
  have chainsOnly := runCommands_chainCommands "inet" tableName (removePacketdRulesCommands.take 8)
    (fun command member => by
      simp only [removePacketdRulesCommands, List.take, List.mem_cons, List.mem_nil_iff,
        or_false] at member
      rcases member with rfl | rfl | rfl | rfl | rfl | rfl | rfl | rfl <;>
        first | exact ⟨_, .inl rfl⟩ | exact ⟨_, .inr rfl⟩) s
  have split : removePacketdRulesCommands =
      removePacketdRulesCommands.take 8 ++ [.deleteTable "inet" tableName] := rfl
  rw [split, runCommands_append]
  generalize runCommands s (removePacketdRulesCommands.take 8) = s₈ at chainsOnly
  simp only [runCommands, List.foldl_cons, List.foldl_nil, Nftables.exec]
  by_cases present : ("inet", tableName) ∈ s₈.tables <;> simp only [present, ↓reduceIte]
  · rcases chainsOnly with rfl | ⟨chains, -, rfl⟩
    · rfl
    · exact Nftables.ext (finmap_erase_insert _ _ _)
  · rcases chainsOnly with rfl | ⟨chains, -, rfl⟩
    · exact Nftables.ext (finmap_erase_of_not_mem present).symm
    · exact absurd (Finmap.mem_insert.2 (.inl rfl)) present

/-! The script's runs. -/

def firewall : Nftables :=
  ⟨(∅ : Finmap fun _ : String × String => NftTable).insert ("inet", "fw4")
    ⟨(∅ : Finmap fun _ : String => NftChain).insert "input" ⟨some ⟨"filter", .input, 0⟩, []⟩⟩⟩

theorem packetd_not_mem_firewall : ("inet", tableName) ∉ firewall.tables := by
  simp [firewall, tableName, Finmap.mem_insert, Finmap.not_mem_empty]

theorem compatible_of_absent {s : Nftables} (absent : ("inet", tableName) ∉ s.tables) :
    Compatible s := by
  intro chain existing found
  simp [Nftables.chainsOf, Finmap.lookup_eq_none.2 absent] at found

theorem digitValue_of_blank {c : Char} (blank : isBlank c = true) : digitValue c = none := by
  simp only [isBlank, Bool.or_eq_true, beq_iff_eq] at blank
  rcases blank with (rfl | rfl) | rfl <;> decide

theorem digitsValue_plain {base : Nat} {digits : List Char} {n : Nat}
    (valued : digitsValue base digits = some n) :
    digits ≠ [] ∧ ∀ c ∈ digits, isBlank c = false := by
  unfold digitsValue at valued
  split at valued
  · next valid =>
      refine ⟨valid.1, fun c member => ?_⟩
      have digit := List.all_eq_true.1 valid.2 c member
      cases blank : isBlank c
      · rfl
      · rw [digitValue_of_blank blank] at digit
        cases digit
  · cases valued

theorem queueNumber_plain {text : String} {n : Nat} (parsed : queueNumber text = some n) :
    text.data ≠ [] ∧ ∀ c ∈ text.data, isBlank c = false := by
  unfold queueNumber at parsed
  obtain ⟨v, valued, -⟩ := Option.bind_eq_some.1 parsed
  split at valued
  next digits data =>
    rw [data]
    exact ⟨List.cons_ne_nil _ _, by
      simpa [List.forall_mem_cons] using ⟨by decide, by decide, (digitsValue_plain valued).2⟩⟩
  next digits data =>
    rw [data]
    exact ⟨List.cons_ne_nil _ _, by
      simpa [List.forall_mem_cons] using ⟨by decide, by decide, (digitsValue_plain valued).2⟩⟩
  next => exact digitsValue_plain valued

theorem fields_of_plain {text : String} (nonempty : text.data ≠ [])
    (plain : ∀ c ∈ text.data, isBlank c = false) : fields text = [text] := by
  unfold fields
  rw [List.splitOnP_eq_single _ _ fun c member blank => by simp [plain c member] at blank]
  simp [nonempty]

theorem queueNumber_ne_empty {text : String} {n : Nat} (parsed : queueNumber text = some n) :
    text ≠ "" :=
  fun blank => (queueNumber_plain parsed).1 (by rw [blank])

theorem packetdRulesScript_INSERT (devnet : Option Prefix4) {first last : String} {f l : Nat}
    (parsedFirst : queueNumber first = some f) (parsedLast : queueNumber last = some l)
    (s : Nftables) :
    packetdRulesScript 0 devnet ["INSERT", first, last] s =
      ⟨0, [.text "The packetd netfilter rules have been inserted\n"],
        runCommands s (insertPacketdRulesCommands devnet first last)⟩ := by
  have plainFirst := queueNumber_plain parsedFirst
  have plainLast := queueNumber_plain parsedLast
  simp [packetdRulesScript, nft, fields_of_plain plainFirst.1 plainFirst.2,
    fields_of_plain plainLast.1 plainLast.2, queueNumber_ne_empty parsedFirst,
    queueNumber_ne_empty parsedLast, (by decide : zeroTest (fields "INSERT") = false)]

/-- `INSERT`, run as root with two queue numbers nft reads, equal as text or in increasing order,
on a ruleset whose packetd chains, where they exist, have the script's specs: no nft command is
refused, the script exits 0 and prints its one line, and table `inet packetd` then holds the four
chains with their specs and exactly the rules `insertPacketdRules` evaluates; the table's other
chains and every other table are untouched. -/
theorem packetdRulesScript_insert {s : Nftables} (compatible : Compatible s)
    (devnet : Option Prefix4) {first last : String} {f l : Nat}
    (parsedFirst : queueNumber first = some f) (parsedLast : queueNumber last = some l)
    (ordered : first = last ∨ f < l) :
    runChecked s (insertPacketdRulesCommands devnet first last) = .ok (installed devnet f l s) ∧
      packetdRulesScript 0 devnet ["INSERT", first, last] s =
        ⟨0, [.text "The packetd netfilter rules have been inserted\n"], installed devnet f l s⟩ ∧
      (∀ chain : Chain, ((installed devnet f l s).chainsOf "inet" tableName).lookup chain.name =
        some ⟨chain.spec, insertPacketdRules devnet f l chain⟩) ∧
      (∀ name, (∀ chain : Chain, chain.name ≠ name) →
        ((installed devnet f l s).chainsOf "inet" tableName).lookup name =
          (s.chainsOf "inet" tableName).lookup name) ∧
      ∀ key, key ≠ ("inet", tableName) →
        (installed devnet f l s).tables.lookup key = s.tables.lookup key := by
  have checked := runChecked_insertPacketdRulesCommands compatible devnet parsedFirst parsedLast
    ordered
  refine ⟨checked, ?_, fun chain => ?_, fun name other => ?_,
    fun key other => Nftables.setChains_lookup_ne _ _ other⟩
  · rw [packetdRulesScript_INSERT devnet parsedFirst parsedLast, runCommands_of_runChecked checked]
  · rw [installed, Nftables.chainsOf_setChains, lookup_withPacketdChains]
  · rw [installed, Nftables.chainsOf_setChains, lookup_withPacketdChains_other _ _ other]

theorem packetdRulesScript_insert_firewall :
    packetdRulesScript 0 none ["INSERT", "2000", "2003"] firewall =
      ⟨0, [.text "The packetd netfilter rules have been inserted\n"],
        installed none 2000 2003 firewall⟩ :=
  (packetdRulesScript_insert (compatible_of_absent packetd_not_mem_firewall) none
    (by decide : queueNumber "2000" = some 2000) (by decide : queueNumber "2003" = some 2003)
    (.inr (by decide))).2.1

/-- Whatever the arguments and the ruleset, running the script again with the same arguments on
the ruleset its first run left gives the same exit status, output and ruleset: `INSERT` because
its chain phase takes both rulesets to the same normal form, `REMOVE` because the table is gone
already, and every other run because it changed nothing. -/
theorem packetdRulesScript_twice (uid : Nat) (devnet : Option Prefix4) (args : List String)
    (s : Nftables) :
    packetdRulesScript uid devnet args (packetdRulesScript uid devnet args s).nftables =
      packetdRulesScript uid devnet args s := by
  unfold packetdRulesScript
  -- The tests read only `uid` and `args`: both runs take the same branch, and each branch that
  -- stops the script leaves the ruleset alone.
  by_cases root : uid = 0 <;>
    simp only [root, ne_eq, not_true_eq_false, not_false_eq_true, ↓reduceIte]
  by_cases missing : zeroTest (fields (args.getD 0 "")) <;>
    simp only [missing, ↓reduceIte, Bool.false_eq_true]
  by_cases remove : args.getD 0 "" = "REMOVE" <;>
    simp only [remove, ↓reduceIte, runCommands_removePacketdRulesCommands,
      finmap_erase_of_not_mem Finmap.not_mem_erase_self]
  by_cases other : args.getD 0 "" = "INSERT" <;>
    simp only [other, ne_eq, not_true_eq_false, not_false_eq_true, ↓reduceIte]
  by_cases first : args.getD 1 "" = "" <;> simp only [first, ↓reduceIte]
  by_cases last : args.getD 2 "" = "" <;> simp only [last, ↓reduceIte, nft]
  split <;> simp only [runCommands_insertPacketdRulesCommands_twice]

/-- `REMOVE`, run as root, takes table `inet packetd` away from any ruleset, whatever else it
holds, and exits 0; the arguments after the first are not read, so `test` does not keep it from
changing the ruleset. -/
theorem packetdRulesScript_remove (devnet : Option Prefix4) (args : List String) (s : Nftables)
    (remove : args.getD 0 "" = "REMOVE") :
    packetdRulesScript 0 devnet args s =
      ⟨0, [.text "The packetd netfilter rules have been removed\n"],
        ⟨s.tables.erase ("inet", tableName)⟩⟩ := by
  unfold packetdRulesScript
  rw [remove, if_neg (by decide), if_neg (by decide), if_pos rfl,
    runCommands_removePacketdRulesCommands]

theorem packetdRulesScript_remove_installed :
    packetdRulesScript 0 none ["REMOVE", "2000", "2003", "test"]
        (installed none 2000 2003 firewall) =
      ⟨0, [.text "The packetd netfilter rules have been removed\n"],
        ⟨(installed none 2000 2003 firewall).tables.erase ("inet", tableName)⟩⟩ :=
  packetdRulesScript_remove none ["REMOVE", "2000", "2003", "test"] _ rfl

/-- `REMOVE` after `INSERT` gives back the ruleset the host had before, when it had no packetd
table, also when nft refused part of `INSERT`. -/
theorem packetdRulesScript_remove_after_insert {s : Nftables}
    (absent : ("inet", tableName) ∉ s.tables) (devnet : Option Prefix4) {first last : String}
    {f l : Nat} (parsedFirst : queueNumber first = some f)
    (parsedLast : queueNumber last = some l) :
    (packetdRulesScript 0 devnet ["REMOVE"]
      (packetdRulesScript 0 devnet ["INSERT", first, last] s).nftables).nftables = s := by
  obtain ⟨chains, inserted⟩ := runCommands_insertPacketdRulesCommands_setChains s devnet first last
  rw [packetdRulesScript_INSERT devnet parsedFirst parsedLast]
  unfold packetdRulesScript
  rw [if_neg (by decide), List.getD_cons_zero, if_neg (by decide), if_pos rfl]
  refine Nftables.ext ?_
  rw [runCommands_removePacketdRulesCommands, inserted]
  simp only [Nftables.setChains, finmap_erase_insert, finmap_erase_of_not_mem absent]

theorem packetdRulesScript_remove_after_insert_firewall :
    (packetdRulesScript 0 none ["REMOVE"]
      (packetdRulesScript 0 none ["INSERT", "2003", "2000"] firewall).nftables).nftables =
        firewall :=
  packetdRulesScript_remove_after_insert packetd_not_mem_firewall none
    (by decide : queueNumber "2003" = some 2003) (by decide : queueNumber "2000" = some 2000)

end Packetd
