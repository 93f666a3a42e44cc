import Mathlib.Data.List.Basic

/-! The logging service: the level of each source, the two gates that read it (`LogMessage` and
`IsLogEnabled`), the level names, `LogFormatter` with its rate-limiting `%OC|` verb over the
overseer's counters, the configuration load, and the `LogWriter` that feeds an output stream to
`Info` one line at a time. -/

namespace Packetd

/-! ### Levels and their names -/

def logLevelEmerg : Int := 0
def logLevelAlert : Int := 1
def logLevelCrit : Int := 2
def logLevelErr : Int := 3
def logLevelWarn : Int := 4
def logLevelNotice : Int := 5
def logLevelInfo : Int := 6
def logLevelDebug : Int := 7
def logLevelTrace : Int := 8

def logLevelName : List String :=
  ["EMERG", "ALERT", "CRIT", "ERROR", "WARN", "NOTICE", "INFO", "DEBUG", "TRACE"]

@[simp] theorem logLevelName_length : logLevelName.length = 9 := rfl

/-- `logLevelName[level]`, with Go's panic for an index outside the array. -/
def logLevelNameAt (level : Int) : Except String String :=
  if level < 0 then .error ("runtime error: index out of range [" ++ toString level ++ "]")
  else
    match logLevelName[level.toNat]? with
    | some name => .ok name
    | none => .error ("runtime error: index out of range [" ++ toString level ++
        "] with length " ++ toString logLevelName.length)

theorem logLevelNameAt_ok {level : Int} (low : 0 ≤ level) (high : level ≤ 8) :
    ∃ name, logLevelNameAt level = .ok name ∧ logLevelName[level.toNat]? = some name := by
  have index : level.toNat < logLevelName.length := by
    rw [logLevelName_length]
    omega
  refine ⟨logLevelName.get ⟨level.toNat, index⟩, ?_, List.getElem?_eq_getElem index⟩
  rw [logLevelNameAt, if_neg (by omega), List.getElem?_eq_getElem index]
  rfl

/-- `unicode.ToUpper` on the letters whose upper case is in ASCII: the ASCII letters, the
dotless ı and the long ſ. Any other letter is left as it is, where Go gives a letter outside
ASCII too, so a comparison with an ASCII name comes out the same. -/
def toUpperRune (c : Char) : Char :=
  if c = 'ı' then 'I' else if c = 'ſ' then 'S' else c.toUpper

/-- `strings.ToUpper`, rune by rune. -/
def toUpper (s : String) : String := ⟨s.data.map toUpperRune⟩

/-- `FindLogLevelValue`: the first level whose name has the upper case of `source`, or `-1`. -/
def findLogLevelValue (source : String) : Int :=
  match logLevelName.findIdx? (fun levelname => toUpper levelname == toUpper source) with
  | some levelvalue => levelvalue
  | none => -1

def findLogLevelName (level : Int) : Except String String :=
  if level < 0 then .ok "UNDEFINED"
  else if level > logLevelName.length then .ok (toString level)
  else logLevelNameAt level

theorem findLogLevelValue_range (source : String) :
    -1 ≤ findLogLevelValue source ∧ findLogLevelValue source ≤ 8 := by
  unfold findLogLevelValue
  split
  · next levelvalue found =>
      have := List.findIdx?_eq_some_iff_findIdx_eq.1 found
      simp only [logLevelName_length] at this
      omega
  · omega

theorem findLogLevelName_nine_panics :
    findLogLevelName 9 = .error "runtime error: index out of range [9] with length 9" := rfl

theorem except_map_eq_ok {ε α β : Type} {f : α → β} {x : Except ε α} {b : β}
    (mapped : f <$> x = .ok b) : ∃ a, x = .ok a ∧ f a = b := by
  cases x with
  | error e => cases mapped
  | ok a => exact ⟨a, rfl, by injection mapped⟩

theorem except_bind_eq_ok {ε α β : Type} {x : Except ε α} {f : α → Except ε β} {b : β}
    (bound : x.bind f = .ok b) : ∃ a, x = .ok a ∧ f a = .ok b := by
  cases x with
  | error e => cases bound
  | ok a => exact ⟨a, rfl, bound⟩

/-! ### `LogFormatter` and the overseer's counters -/

/-- A value passed in `args ...interface{}`, told apart as `LogFormatter`'s type switches do. -/
inductive LogArg
  | string (s : String)
  | int (n : Int)
  /-- A value of any other dynamic type, as `fmt` prints it. -/
  | other (shown : String)
  deriving DecidableEq, Repr

abbrev Counters := String → Nat

/-- `overseer.AddCounter(name, amount)`: the new total, and the counters holding it. -/
def addCounter (counters : Counters) (name : String) (amount : Nat) : Nat × Counters :=
  (counters name + amount, Function.update counters name (counters name + amount))

def hasPrefix (s pre : String) : Bool := pre.data.isPrefixOf s.data

/-- `uint64(n)` of a Go `int`. -/
def toUint64 (n : Int) : Nat := (n % 18446744073709551616).toNat

/-- The test of the `%OC|` verb: the call whose counter reaches `total` formats its message if it
is the first, if there is no limit, or if `total` is a multiple of the limit. -/
def repeatShown (limit total : Nat) : Bool := total == 1 || limit == 0 || total % limit == 0

section Formatter

variable (sprintf : String → List LogArg → String)

/-- The message of a `%OC|` call that is shown: the format after the verb, as it is with no
further argument, else formatted with them. -/
def ocMessage (format : String) (rest : List LogArg) : String :=
  if rest = [] then ⟨format.data.drop 4⟩ else sprintf ⟨format.data.drop 4⟩ rest

/-- `LogFormatter`, with `fmt.Sprintf` as `sprintf`: the buffer and the overseer's counters
after it. -/
def logFormatter (format : String) (args : List LogArg) (counters : Counters) :
    String × Counters :=
  if hasPrefix format "%OC|" then
    match args with
    | .string ocname :: .int limit :: rest =>
        let total := addCounter counters ocname 1
        if repeatShown (toUint64 limit) total.1 then (ocMessage sprintf format rest, total.2)
        else ("", total.2)
    | .string _ :: _ :: _ => ("ERROR: LogFormatter OC verb args[1] not int:" ++ format, counters)
    | _ :: _ :: _ => ("ERROR: LogFormatter OC verb args[0] not string:" ++ format, counters)
    | _ => ("ERROR: LogFormatter OC verb missing arguments:" ++ format, counters)
  else (sprintf format args, counters)

end Formatter

/-- The counter that the arguments of a `%OC|` call name, when they have the types the verb
asks for. -/
def ocCounter : List LogArg → Option String
  | .string ocname :: .int _ :: _ => some ocname
  | _ => none

theorem logFormatter_counters (sprintf : String → List LogArg → String) (format : String)
    (args : List LogArg) (counters : Counters) :
    (logFormatter sprintf format args counters).2 =
      if hasPrefix format "%OC|" then
        ((ocCounter args).map fun ocname => (addCounter counters ocname 1).2).getD counters
      else counters := by
  unfold logFormatter
  split
  · rcases args with _ | ⟨first, _ | ⟨second, rest⟩⟩
    · rfl
    · cases first <;> rfl
    · cases first <;> cases second <;> try rfl
      dsimp only [ocCounter, Option.map_some', Option.getD_some]
      split <;> rfl
  · rfl

/-! ### The level map and the two gates -/

/-- `logLevelMap`: the level of each configured source. -/
abbrev LevelMap := String → Option Int

section Gates

variable (levels : LevelMap) (sprintf : String → List LogArg → String)

/-- The level configured for `name`; `GetLogLevel` looks a name up only when it is not empty. -/
def configuredLevel (name : String) : Option Int :=
  if name.length = 0 then none else levels name

/-- `GetLogLevel`: the function's own level first, then its package's, then `INFO`. -/
def getLogLevel (packageName functionName : String) : Int :=
  match configuredLevel levels functionName, configuredLevel levels packageName with
  | some level, _ => level
  | none, some level => level
  | none, none => logLevelInfo

theorem getLogLevel_eq (packageName functionName : String) :
    getLogLevel levels packageName functionName =
      (configuredLevel levels functionName).getD
        ((configuredLevel levels packageName).getD logLevelInfo) := by
  unfold getLogLevel
  split <;> simp_all

def findCallingFunction (function : String) : String × String :=
  let functionName := (function.data.reverse.takeWhile (· != '/')).reverse
  let packageName :=
    if '.' ∈ functionName then String.mk (functionName.takeWhile (· != '.')) else "unknown"
  (packageName, String.mk functionName)

def isLogEnabledSource (level : Int) (source : String) : Bool :=
  decide (level ≤ getLogLevel levels source "")

/-- `IsLogEnabled`: the caller's package, then its function, each looked up as a source. -/
def isLogEnabled (level : Int) (caller : String) : Bool :=
  let names := findCallingFunction caller
  isLogEnabledSource levels level names.1 || isLogEnabledSource levels level names.2

/-- `%-6s`: `s` padded with spaces on the right to `width` runes. -/
def padRight (s : String) (width : Nat) : String := s ++ ⟨List.replicate (width - s.length) ' '⟩

/-- `%18s`: `s` padded with spaces on the left to `width` runes. -/
def padLeft (s : String) (width : Nat) : String := ⟨List.replicate (width - s.length) ' '⟩ ++ s

/-- `fmt.Printf("%s%-6s %18s: %s", getPrefix(), logLevelName[level], source, message)`, where
`stamp` is what `getPrefix` returns. -/
def printLine (stamp : String) (level : Int) (source message : String) : Except String String :=
  (logLevelNameAt level).map fun name =>
    stamp ++ padRight name 6 ++ " " ++ padLeft source 18 ++ ": " ++ message

/-- What `LogMessage` prints of a formatted buffer: nothing if it is empty. -/
def printBuffer (stamp : String) (level : Int) (source buffer : String) :
    Except String (Option String) :=
  if buffer.length = 0 then .ok none else some <$> printLine stamp level source buffer

/-- What `LogMessage` and `LogMessageSource` print once they know the source's level, and the
overseer's counters after it: nothing above the level; with no arguments the format as it is;
otherwise `LogFormatter`'s buffer. -/
def emitMessage (stamp : String) (level threshold : Int) (source format : String)
    (args : List LogArg) (counters : Counters) : Except String (Option String × Counters) :=
  if level > threshold then .ok (none, counters)
  else if args = [] then (fun line => (some line, counters)) <$> printLine stamp level source format
  else
    let buffer := logFormatter sprintf format args counters
    (fun printed => (printed, buffer.2)) <$> printBuffer stamp level source buffer.1

/-- `LogMessage`, called from the function whose runtime name is `caller`. -/
def logMessage (stamp : String) (level : Int) (caller format : String) (args : List LogArg)
    (counters : Counters) : Except String (Option String × Counters) :=
  let names := findCallingFunction caller
  emitMessage sprintf stamp level (getLogLevel levels names.1 names.2) names.1 format args counters

def logMessageSource (stamp : String) (level : Int) (source format : String)
    (args : List LogArg) (counters : Counters) : Except String (Option String × Counters) :=
  emitMessage sprintf stamp level (getLogLevel levels source "") source format args counters

end Gates

/-! ### The wrappers, one per level -/

section Wrappers

variable (levels : LevelMap) (sprintf : String → List LogArg → String) (stamp caller : String)

def emerg := logMessage levels sprintf stamp logLevelEmerg caller
def alert := logMessage levels sprintf stamp logLevelAlert caller
def crit := logMessage levels sprintf stamp logLevelCrit caller
def err := logMessage levels sprintf stamp logLevelErr caller
def warn := logMessage levels sprintf stamp logLevelWarn caller
def notice := logMessage levels sprintf stamp logLevelNotice caller
def info := logMessage levels sprintf stamp logLevelInfo caller
def debug := logMessage levels sprintf stamp logLevelDebug caller
def trace := logMessage levels sprintf stamp logLevelTrace caller

def isEmergEnabled := isLogEnabled levels logLevelEmerg caller
def isAlertEnabled := isLogEnabled levels logLevelAlert caller
def isCritEnabled := isLogEnabled levels logLevelCrit caller
def isErrEnabled := isLogEnabled levels logLevelErr caller
def isWarnEnabled := isLogEnabled levels logLevelWarn caller
def isNoticeEnabled := isLogEnabled levels logLevelNotice caller
def isInfoEnabled := isLogEnabled levels logLevelInfo caller
def isDebugEnabled := isLogEnabled levels logLevelDebug caller
def isTraceEnabled := isLogEnabled levels logLevelTrace caller

end Wrappers

/-- The runtime name of `nfqueueCallback`, a caller of `IsTraceEnabled` and of the logger. -/
def nfqueueCaller : String := "github.com/untangle/packetd/services/dispatch.nfqueueCallback"

/-- `IsLogEnabled` asks the package and the function separately, each defaulting to `INFO`;
`LogMessage` takes the function's level before the package's. With `dispatch` set to `WARN`
and its function unset, `IsInfoEnabled` from `nfqueueCallback` answers true while `Info` from
there fails its level gate and prints nothing. -/
theorem isInfoEnabled_disagrees_with_info :
    isInfoEnabled (Function.update (fun _ => none) "dispatch" (some logLevelWarn)) nfqueueCaller =
        true ∧
      ¬ logLevelInfo ≤ getLogLevel (Function.update (fun _ => none) "dispatch" (some logLevelWarn))
        "dispatch" "dispatch.nfqueueCallback" ∧
      findCallingFunction nfqueueCaller = ("dispatch", "dispatch.nfqueueCallback") ∧
      info (Function.update (fun _ => none) "dispatch" (some logLevelWarn)) (fun format _ => format)
        "" nfqueueCaller "accepted" [] (fun _ => 0) = .ok (none, fun _ => 0) :=
  ⟨by decide, by decide, by decide, rfl⟩

/-! ### Runs of `LogMessage` on the overseer's counters -/

/-- One `LogMessage` call: the prefix `getPrefix` gives it, its level, its caller's runtime
name, the format and the arguments. -/
structure LogCall where
  stamp : String
  level : Int
  caller : String
  format : String
  args : List LogArg

theorem repeatShown_count (limit n : Nat) :
    ((List.range n).filter fun i => repeatShown limit (i + 1)).length =
      if limit ≤ 1 then n else min n 1 + n / limit := by
  induction n with
  | zero => simp
  | succ n ih =>
      rw [List.range_succ, List.filter_append, List.length_append, ih, List.filter_cons,
        List.filter_nil]
      by_cases small : limit ≤ 1
      · have shown : repeatShown limit (n + 1) = true := by
          rcases (by omega : limit = 0 ∨ limit = 1) with rfl | rfl <;>
            simp [repeatShown, Nat.mod_one]
        simp [small, shown]
      · have divides := Nat.succ_div n limit
        have below : 1 / limit = 0 := Nat.div_eq_of_lt (by omega)
        have nonzero : limit ≠ 0 := by omega
        rw [if_neg small, if_neg small]
        simp only [repeatShown, Nat.dvd_iff_mod_eq_zero] at divides ⊢
        by_cases first : n = 0
        · subst first
          simp [below]
        · rw [divides]
          by_cases multiple : (n + 1) % limit = 0 <;> simp [multiple, first, nonzero] <;> omega

section Runs

variable (levels : LevelMap) (sprintf : String → List LogArg → String)

/-- `LogMessage` calls one after another: what each printed, and the overseer's counters after
the last. A panic ends the run. -/
def logMessages : List LogCall → Counters → Except String (List (Option String) × Counters)
  | [], counters => .ok ([], counters)
  | call :: calls, counters =>
      (logMessage levels sprintf call.stamp call.level call.caller call.format call.args
          counters).bind fun first =>
        (logMessages calls first.2).map fun rest => (first.1 :: rest.1, rest.2)

/-- Whether a call adds to the overseer counter `ocname`: it passes its level gate and carries
the `%OC|` verb with arguments that name `ocname`. -/
def addsTo (ocname : String) (call : LogCall) : Bool :=
  decide (call.level ≤ getLogLevel levels (findCallingFunction call.caller).1
      (findCallingFunction call.caller).2) &&
    hasPrefix call.format "%OC|" && ocCounter call.args == some ocname

theorem logMessage_counters {call : LogCall} {counters : Counters}
    {result : Option String × Counters}
    (logged : logMessage levels sprintf call.stamp call.level call.caller call.format call.args
      counters = .ok result) (ocname : String) :
    result.2 ocname = counters ocname + if addsTo levels ocname call then 1 else 0 := by
  dsimp only [logMessage, emitMessage] at logged
  split at logged
  · next closed =>
      cases logged
      simp [addsTo, Int.not_le.2 closed]
  · next opened =>
      have gate := Int.not_lt.1 opened
      split at logged
      · next empty =>
          obtain ⟨line, -, rfl⟩ := except_map_eq_ok logged
          simp [addsTo, empty, ocCounter]
      · obtain ⟨printed, -, rfl⟩ := except_map_eq_ok logged
        rw [logFormatter_counters]
        cases verb : hasPrefix call.format "%OC|"
        · simp [addsTo, verb]
        · cases named : ocCounter call.args with
          | none => simp [addsTo, named]
          | some name =>
              by_cases same : ocname = name
              · subst same
                simp [addsTo, named, verb, gate, addCounter]
              · simp [addsTo, named, addCounter, Function.update_noteq same, Ne.symm same]

/-- Over a run without a panic each call prints at most one line, and each counter counts
exactly the calls that add to it: a call its level gate stops uses up none of the verb's
limit. -/
theorem logMessages_counters (calls : List LogCall) : ∀ {counters : Counters}
    {result : List (Option String) × Counters},
    logMessages levels sprintf calls counters = .ok result → ∀ ocname,
      result.1.length = calls.length ∧
        result.2 ocname = counters ocname + (calls.filter (addsTo levels ocname)).length := by
  induction calls with
  | nil =>
      intro counters result ran ocname
      cases ran
      simp
  | cons call calls ih =>
      intro counters result ran ocname
      obtain ⟨first, logged, rest⟩ := except_bind_eq_ok ran
      obtain ⟨tail, ran', rfl⟩ := except_map_eq_ok rest
      have counted := logMessage_counters levels sprintf logged ocname
      obtain ⟨length, count⟩ := ih ran' ocname
      refine ⟨by simp [length], ?_⟩
      rw [count, counted, List.filter_cons]
      split
      · rw [List.length_cons]
        omega
      · rw [Nat.add_zero]

def gatedCalls : List LogCall :=
  ⟨"", logLevelInfo, "main.main", "%OC|busy", [.string "busy", .int 2]⟩ ::
    List.replicate 2 ⟨"", logLevelWarn, "main.main", "%OC|busy", [.string "busy", .int 2]⟩

/-- The call its level gate stops leaves the counter alone: the counter ends at two. -/
theorem logMessages_counters_gated :
    ∃ result, logMessages (Function.update (fun _ => none) "main" (some logLevelWarn))
        (fun format _ => format) gatedCalls (fun _ => 0) = .ok result ∧
      (result.1.length = gatedCalls.length ∧
        result.2 "busy" = 0 + (gatedCalls.filter
          (addsTo (Function.update (fun _ => none) "main" (some logLevelWarn)) "busy")).length) ∧
      (gatedCalls.filter
        (addsTo (Function.update (fun _ => none) "main" (some logLevelWarn)) "busy")).length = 2 :=
  ⟨_, rfl, @logMessages_counters (Function.update (fun _ => none) "main" (some logLevelWarn))
    (fun format _ => format) gatedCalls (fun _ => 0) _ rfl "busy", by decide⟩

theorem logMessage_repeat (stamp : String) (level : Int) (caller format ocname : String)
    (limit : Int) (rest : List LogArg) (ocVerb : hasPrefix format "%OC|" = true)
    (enabled : level ≤ getLogLevel levels (findCallingFunction caller).1
      (findCallingFunction caller).2)
    {shown : Option String}
    (printed : printBuffer stamp level (findCallingFunction caller).1
      (ocMessage sprintf format rest) = .ok shown) (counters : Counters) :
    logMessage levels sprintf stamp level caller format (.string ocname :: .int limit :: rest)
        counters =
      .ok (if repeatShown (toUint64 limit) (counters ocname + 1) then shown else none,
        Function.update counters ocname (counters ocname + 1)) := by
  simp only [logMessage, emitMessage, if_neg (Int.not_lt.2 enabled), logFormatter, ocVerb,
    ↓reduceIte, addCounter, reduceCtorEq]
  by_cases now : repeatShown (toUint64 limit) (counters ocname + 1) = true
  · simp only [now, ↓reduceIte, printed]
    rfl
  · simp only [now, ↓reduceIte]
    rfl

theorem logMessages_repeats (stamp : String) (level : Int) (caller format ocname : String)
    (limit : Int) (rest : List LogArg) (ocVerb : hasPrefix format "%OC|" = true)
    (enabled : level ≤ getLogLevel levels (findCallingFunction caller).1
      (findCallingFunction caller).2)
    {shown : Option String}
    (printed : printBuffer stamp level (findCallingFunction caller).1
      (ocMessage sprintf format rest) = .ok shown) (n : Nat) (counters : Counters) :
    logMessages levels sprintf
        (List.replicate n ⟨stamp, level, caller, format, .string ocname :: .int limit :: rest⟩)
        counters =
      .ok ((List.range n).map fun i =>
          if repeatShown (toUint64 limit) (counters ocname + i + 1) then shown else none,
        Function.update counters ocname (counters ocname + n)) := by
  induction n generalizing counters with
  | zero => simp [logMessages]
  | succ n ih =>
      rw [List.replicate_succ, logMessages,
        logMessage_repeat levels sprintf stamp level caller format ocname limit rest ocVerb enabled
          printed]
      simp only [Except.bind, Except.map, ih, Function.update_same, Function.update_idem,
        List.range_succ_eq_map, List.map_cons, List.map_map]
      have shift : ∀ i, counters ocname + 1 + i = counters ocname + (i + 1) := fun i => by omega
      simp only [Nat.add_zero, Function.comp_def, Nat.succ_eq_add_one, shift]

/-- From a fresh counter, `n` repeats of a `%OC|` message that prints a line print it on the
first repeat and then once in every `limit` of them. -/
theorem logMessages_repeats_printed (stamp : String) (level : Int)
    (caller format ocname : String) (limit : Int) (rest : List LogArg)
    (ocVerb : hasPrefix format "%OC|" = true)
    (enabled : level ≤ getLogLevel levels (findCallingFunction caller).1
      (findCallingFunction caller).2)
    {line : String}
    (printed : printBuffer stamp level (findCallingFunction caller).1
      (ocMessage sprintf format rest) = .ok (some line)) (n : Nat) {counters : Counters}
    (fresh : counters ocname = 0) :
    ∃ result, logMessages levels sprintf
        (List.replicate n ⟨stamp, level, caller, format, .string ocname :: .int limit :: rest⟩)
        counters = .ok result ∧
      (result.1.filter Option.isSome).length =
        if toUint64 limit ≤ 1 then n else min n 1 + n / toUint64 limit := by
  refine ⟨_, logMessages_repeats levels sprintf stamp level caller format ocname limit rest
    ocVerb enabled printed n counters, ?_⟩
  rw [← repeatShown_count, List.filter_map, List.length_map, fresh]
  congr 2
  funext i
  simp only [Function.comp_apply, Nat.zero_add]
  split <;> simp_all

/-- Four repeats of a `%OC|` message with a limit of two, from `main.main` at `INFO`: three
lines print, on the first, second and fourth repeat. -/
theorem logMessages_repeats_printed_busy :
    ∃ result, logMessages (fun _ => none) (fun format _ => format)
        (List.replicate 4 ⟨"", logLevelInfo, "main.main", "%OC|busy", [.string "busy", .int 2]⟩)
        (fun _ => 0) = .ok result ∧
      (result.1.filter Option.isSome).length = 3 :=
  let ⟨result, ran, count⟩ := @logMessages_repeats_printed (fun _ => none)
    (fun format _ => format) "" logLevelInfo "main.main" "%OC|busy" "busy" 2 [] rfl (by decide) _
    rfl 4 (fun _ => 0) rfl
  ⟨result, ran, count.trans (by decide)⟩

end Runs

/-! ### Changing levels at run time -/

/-- `SearchSourceLogLevel`: the source's level, or `-1`. -/
def searchSourceLogLevel (levels : LevelMap) (source : String) : Int := (levels source).getD (-1)

/-- What `AdjustSourceLogLevel` returns and leaves in the map when no other goroutine runs
between its steps: the previous level, or `-1` for a source it adds, and the map with the new
level. Its steps, and the proof that they come to this when run alone, are in `LevelStore`. -/
def adjustLevelMap (levels : LevelMap) (source : String) (level : Int) : Int × LevelMap :=
  ((levels source).getD (-1), Function.update levels source (some level))

/-! ### The configuration file -/

/-- The level `loadLoggerConfig` reads from a configured name: the index of the level name equal
to its upper case. The loop does not stop at a match; the names are distinct, so at most one
matches. -/
def configLevel (cfglevel : String) : Option Int :=
  logLevelName.enum.foldl
    (fun found entry => if entry.2 = toUpper cfglevel then some (entry.1 : Int) else found) none

/-- A comment entry: its name starts and ends with an underscore. -/
def isCommentKey (cfgname : String) : Bool :=
  cfgname.data.head? == some '_' && cfgname.data.getLast? == some '_'

/-- One entry of the configuration in `loadLoggerConfig`. -/
def loadEntry (levels : LevelMap) (entry : String × String) : LevelMap :=
  if isCommentKey entry.1 then levels
  else
    match configLevel entry.2 with
    | some level => Function.update levels entry.1 (some level)
    | none => levels

/-- `loadLoggerConfig` over the name and level pairs of the configuration file. -/
def loadLoggerConfig (config : List (String × String)) (levels : LevelMap) : LevelMap :=
  config.foldl loadEntry levels

/-- The sources `initLoggerConfig` configures. -/
def defaultSources : List String :=
  ["certfetch", "certsniff", "classify", "dns", "example", "geoip", "predicttraffic", "reporter",
    "revdns", "sni", "stats", "certcache", "certmanager", "dict", "dispatch", "kernel", "logger",
    "overseer", "predicttrafficsvc", "reports", "restd", "settings", "common", "conntrack",
    "netlogger", "nfqueue", "warehouse", "dispatchTimer"]

/-- The configuration `initLoggerConfig` writes when there is no file. -/
def initLoggerConfig : List (String × String) :=
  ("_FileVersion_", "200") :: ("_ValidLevels_", "|".intercalate logLevelName) ::
    defaultSources.map fun source => (source, "INFO")

/-- The level map after `Startup`: the file's configuration, or the default one `initLoggerConfig`
writes when the file is missing. -/
def loggerStartup (config : Option (List (String × String))) : LevelMap :=
  loadLoggerConfig (config.getD initLoggerConfig) fun _ => none

def ValidLevels (levels : LevelMap) : Prop :=
  ∀ source level, levels source = some level → 0 ≤ level ∧ level ≤ 8

theorem configLevel_range (cfglevel : String) {level : Int}
    (found : configLevel cfglevel = some level) : 0 ≤ level ∧ level ≤ 8 := by
  have step : ∀ (entries : List (Nat × String)) (start : Option Int),
      (∀ entry ∈ entries, entry.1 ≤ 8) → (∀ level, start = some level → 0 ≤ level ∧ level ≤ 8) →
      ∀ level, entries.foldl (fun found entry =>
        if entry.2 = toUpper cfglevel then some (entry.1 : Int) else found) start = some level →
        0 ≤ level ∧ level ≤ 8 := by
    intro entries
    induction entries with
    | nil => exact fun _ _ valid => valid
    | cons entry rest ih =>
        intro start bounded valid
        refine ih _ (fun entry member => bounded entry (List.mem_cons_of_mem _ member)) ?_
        intro level picked
        dsimp only at picked
        split at picked
        · cases picked
          have := bounded entry (List.mem_cons_self _ _)
          omega
        · exact valid level picked
  exact step _ none (by decide) (fun _ none => nomatch none) level found

theorem validLevels_loadLoggerConfig (config : List (String × String)) {levels : LevelMap}
    (valid : ValidLevels levels) : ValidLevels (loadLoggerConfig config levels) := by
  induction config generalizing levels with
  | nil => exact valid
  | cons entry rest ih =>
      refine ih fun source level stored => ?_
      unfold loadEntry at stored
      split at stored
      · exact valid source level stored
      · cases found : configLevel entry.2 with
        | none =>
            simp only [found] at stored
            exact valid source level stored
        | some level' =>
            simp only [found, Function.update_apply] at stored
            split at stored
            · cases stored
              exact configLevel_range _ found
            · exact valid source level stored

theorem validLevels_loggerStartup (config : Option (List (String × String))) :
    ValidLevels (loggerStartup config) :=
  validLevels_loadLoggerConfig _ fun _ _ stored => nomatch stored

/-! ### `LogWriter` -/

/-- A `LogWriter`: the bytes of the line it has not passed on yet. -/
structure LogWriter where
  buffer : List UInt8

def newLogWriter : LogWriter := ⟨[]⟩

/-- The loop of `Write` over the bytes of `p`: the buffer after it, and each line it hands to
`Info`, with its newline, in order. -/
def writeBytes : List UInt8 → List UInt8 → List UInt8 × List (List UInt8)
  | buffer, [] => (buffer, [])
  | buffer, b :: p =>
      if b = 10 then
        let rest := writeBytes [] p
        (rest.1, (buffer ++ [b]) :: rest.2)
      else writeBytes (buffer ++ [b]) p

theorem writeBytes_cons (buffer : List UInt8) (b : UInt8) (p : List UInt8) :
    writeBytes buffer (b :: p) =
      if b = 10 then ((writeBytes [] p).1, (buffer ++ [b]) :: (writeBytes [] p).2)
      else writeBytes (buffer ++ [b]) p := rfl

/-- `Write`: it returns `len(p)` and a nil error, and hands each completed line to `Info`. -/
def LogWriter.write (w : LogWriter) (p : List UInt8) : Nat × LogWriter × List (List UInt8) :=
  (p.length, ⟨(writeBytes w.buffer p).1⟩, (writeBytes w.buffer p).2)

/-- The runtime name of `Write`, the caller `Info` sees for each line. -/
def writerCaller : String := "github.com/untangle/packetd/services/logger.(*LogWriter).Write"

example : findCallingFunction writerCaller = ("logger", "logger.(*LogWriter).Write") := by
  decide

theorem writeBytes_lines (buffer p : List UInt8) (clear : 10 ∉ buffer) :
    10 ∉ (writeBytes buffer p).1 ∧
      ∀ line ∈ (writeBytes buffer p).2, ∃ body, line = body ++ [10] ∧ 10 ∉ body := by
  induction p generalizing buffer with
  | nil => exact ⟨clear, nofun⟩
  | cons b p ih =>
      rw [writeBytes_cons]
      split
      · next newline =>
          obtain ⟨rest, lines⟩ := ih [] (List.not_mem_nil _)
          refine ⟨rest, fun line member => ?_⟩
          rcases List.mem_cons.1 member with rfl | later
          · exact ⟨buffer, by rw [newline], clear⟩
          · exact lines line later
      · next other =>
          refine ih _ fun member => ?_
          rcases List.mem_append.1 member with old | new
          · exact clear old
          · exact other (List.mem_singleton.1 new).symm

theorem writeBytes_append (buffer p q : List UInt8) :
    writeBytes buffer (p ++ q) =
      ((writeBytes (writeBytes buffer p).1 q).1,
        (writeBytes buffer p).2 ++ (writeBytes (writeBytes buffer p).1 q).2) := by
  induction p generalizing buffer with
  | nil => rfl
  | cons b p ih =>
      rw [List.cons_append, writeBytes_cons, writeBytes_cons]
      split
      · rw [ih]
        rfl
      · exact ih _

/-- `Write` called with each chunk in turn: what each call returns, the writer after the last
call, and the lines handed to `Info`, in order. -/
def writeAll (w : LogWriter) : List (List UInt8) → List Nat × LogWriter × List (List UInt8)
  | [] => ([], w, [])
  | p :: ps =>
      let first := w.write p
      let rest := writeAll first.2.1 ps
      (first.1 :: rest.1, rest.2.1, first.2.2 ++ rest.2.2)

theorem writeAll_eq (w : LogWriter) (ps : List (List UInt8)) :
    writeAll w ps = (ps.map List.length, ⟨(writeBytes w.buffer ps.flatten).1⟩,
      (writeBytes w.buffer ps.flatten).2) := by
  induction ps generalizing w with
  | nil => rfl
  | cons p ps ih =>
      rw [writeAll, ih, List.flatten_cons, writeBytes_append]
      rfl

/-- The writers the program can hold: `NewLogWriter`'s, then one `Write` after another. -/
inductive WriterReachable : LogWriter → Prop
  | new : WriterReachable newLogWriter
  | write {w : LogWriter} (p : List UInt8) : WriterReachable w → WriterReachable (w.write p).2.1

/-! The lines of a byte stream, read from the right: what `Write` must hand to `Info`. -/

/-- The newline-terminated lines of a byte stream, each with its newline, in order, and the
suffix after the last newline. -/
def splitLines : List UInt8 → List (List UInt8) × List UInt8
  | [] => ([], [])
  | b :: bs =>
      let split := splitLines bs
      if b = 10 then ([10] :: split.1, split.2)
      else
        match split.1 with
        | [] => ([], b :: split.2)
        | line :: lines => ((b :: line) :: lines, split.2)

theorem splitLines_of_not_mem {xs : List UInt8} (clear : 10 ∉ xs) : splitLines xs = ([], xs) := by
  induction xs with
  | nil => rfl
  | cons b bs ih =>
      rw [List.mem_cons, not_or] at clear
      rw [splitLines, ih clear.2, if_neg (Ne.symm clear.1)]

theorem splitLines_append_newline {xs : List UInt8} (clear : 10 ∉ xs) (ys : List UInt8) :
    splitLines (xs ++ 10 :: ys) = ((xs ++ [10]) :: (splitLines ys).1, (splitLines ys).2) := by
  induction xs with
  | nil => rfl
  | cons x xs ih =>
      rw [List.mem_cons, not_or] at clear
      rw [List.cons_append, splitLines, ih clear.2, if_neg (Ne.symm clear.1)]
      rfl

theorem writeBytes_splitLines (buffer p : List UInt8) (clear : 10 ∉ buffer) :
    writeBytes buffer p = ((splitLines (buffer ++ p)).2, (splitLines (buffer ++ p)).1) := by
  induction p generalizing buffer with
  | nil => rw [List.append_nil, splitLines_of_not_mem clear]; rfl
  | cons b p ih =>
      rw [writeBytes_cons]
      split
      · next newline =>
          subst newline
          rw [ih [] (List.not_mem_nil _), splitLines_append_newline clear, List.nil_append]
      · next other =>
          rw [ih _ (by simpa [clear] using Ne.symm other), List.append_assoc, List.singleton_append]

theorem writerReachable_iff (w : LogWriter) : WriterReachable w ↔ 10 ∉ w.buffer := by
  constructor
  · intro reached
    induction reached with
    | new => exact List.not_mem_nil _
    | write p _ ih => exact (writeBytes_lines _ p ih).1
  · intro clear
    have written : (newLogWriter.write w.buffer).2.1 = w := by
      simp only [LogWriter.write, newLogWriter]
      rw [writeBytes_splitLines [] w.buffer (List.not_mem_nil _), List.nil_append,
        splitLines_of_not_mem clear]
    exact written ▸ .write w.buffer .new

/-- Writes of any chunks: each call returns its length, `Info` gets the newline-terminated lines
of the old buffer and the chunks, each with its newline, in order, the buffer keeps the suffix
after the last newline, and the lines and the writer are those of one `Write` of the
concatenation. -/
theorem logWriter_write_chunks {w : LogWriter} (reached : WriterReachable w)
    (ps : List (List UInt8)) :
    writeAll w ps = (ps.map List.length, ⟨(splitLines (w.buffer ++ ps.flatten)).2⟩,
        (splitLines (w.buffer ++ ps.flatten)).1) ∧
      (writeAll w ps).2 = (w.write ps.flatten).2 := by
  rw [writeAll_eq]
  exact ⟨by rw [writeBytes_splitLines _ _ ((writerReachable_iff w).1 reached)], rfl⟩

theorem logWriter_write_chunks_hello :
    WriterReachable newLogWriter ∧
      writeAll newLogWriter [[104, 105], [10, 111]] =
          ([[104, 105], [10, 111]].map List.length,
            ⟨(splitLines (newLogWriter.buffer ++ [[104, 105], [10, 111]].flatten)).2⟩,
            (splitLines (newLogWriter.buffer ++ [[104, 105], [10, 111]].flatten)).1) ∧
        (writeAll newLogWriter [[104, 105], [10, 111]]).2 =
          (newLogWriter.write [[104, 105], [10, 111]].flatten).2 :=
  ⟨.new, logWriter_write_chunks .new [[104, 105], [10, 111]]⟩

end Packetd
