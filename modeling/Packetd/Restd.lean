import Mathlib.Data.String.Basic
import Packetd.Logger

/-! The logger endpoint of the REST daemon, `GET /api/logger/:source`: a query `source` reads the
source's level and `source=LEVEL` sets it. Requests run one after another on the logger's level
map, from the map `Startup` loads. The settings endpoints split their `path` parameter into
segments with `RemoveEmptyStrings`, which filters the slice in place. -/

namespace Packetd

inductive JsonValue
  | str (s : String)
  | int (n : Int)
  deriving DecidableEq, Repr

/-- One `c.JSON(status, body)` call. -/
structure Response where
  status : Nat
  body : List (String × JsonValue)
  deriving DecidableEq, Repr

def statusOK : Nat := 200
def statusInternalServerError : Nat := 500

def errorResponse (message : String) : Response :=
  ⟨statusInternalServerError, [("error", .str message)]⟩

/-- `strings.Split` at a one-rune separator. -/
def stringsSplit (s : String) (sep : Char) : List String := (s.data.splitOn sep).map String.mk

/-- What `loggerHandler` makes of its query before it touches the level map: its responses, if
it needs no level, or the source to search, or the source and level to set, each with the syntax
error it has sent first, if any. A query with more than one `=` gets the syntax error and goes
on. The level name is read by `FindLogLevelValue`, the logger's lookup from a level name to a
level. -/
inductive LoggerQuery
  | answered (responses : List Response)
  | search (source : String) (syntaxError : List Response)
  | adjust (source : String) (setlevel : Int) (syntaxError : List Response)

def loggerQuery (queryStr : String) : LoggerQuery :=
  if queryStr = "" then .answered [errorResponse "missing logger source"]
  else
    let info := stringsSplit queryStr '='
    let syntaxError :=
      if info.length < 1 ∨ info.length > 2 then [errorResponse "invalid logger syntax"] else []
    if info.length = 1 then .search (info.getD 0 "") syntaxError
    else
      let setlevel := findLogLevelValue (info.getD 1 "")
      if setlevel < 0 then .answered (syntaxError ++ [errorResponse "invalid log level specified"])
      else .adjust (info.getD 0 "") setlevel syntaxError

def searchResponses (source : String) (syntaxError : List Response) (level : Int) :
    List Response :=
  syntaxError ++ [if level < 0 then errorResponse "invalid log source specified"
    else ⟨statusOK, [("source", .str source), ("level", .int level)]⟩]

def adjustResponses (source : String) (setlevel : Int) (syntaxError : List Response)
    (nowlevel : Int) : List Response :=
  syntaxError ++ [if nowlevel < 0 then errorResponse "invalid log source specified"
    else ⟨statusOK, [("source", .str source), ("oldlevel", .int nowlevel),
      ("newlevel", .int setlevel)]⟩]

/-- `loggerHandler` on a level map that no other goroutine touches while it runs: the responses
it sends, in order, and the map after it. -/
def loggerHandler (levels : LevelMap) (queryStr : String) : List Response × LevelMap :=
  match loggerQuery queryStr with
  | .answered responses => (responses, levels)
  | .search source syntaxError =>
      (searchResponses source syntaxError (searchSourceLogLevel levels source), levels)
  | .adjust source setlevel syntaxError =>
      let adjusted := adjustLevelMap levels source setlevel
      (adjustResponses source setlevel syntaxError adjusted.1, adjusted.2)

theorem loggerQuery_setlevel {queryStr source : String} {setlevel : Int}
    {syntaxError : List Response}
    (queried : loggerQuery queryStr = .adjust source setlevel syntaxError) :
    0 ≤ setlevel ∧ setlevel ≤ 8 := by
  unfold loggerQuery at queried
  dsimp only at queried
  split_ifs at queried with empty single negative <;> cases queried <;>
    exact ⟨by omega, (findLogLevelValue_range _).2⟩

theorem loggerHandler_levels (levels : LevelMap) (queryStr : String) :
    (loggerHandler levels queryStr).2 = levels ∨
      ∃ source level, 0 ≤ level ∧ level ≤ 8 ∧
        (loggerHandler levels queryStr).2 = Function.update levels source (some level) := by
  unfold loggerHandler
  cases queried : loggerQuery queryStr with
  | adjust source setlevel syntaxError =>
      obtain ⟨low, high⟩ := loggerQuery_setlevel queried
      exact .inr ⟨source, setlevel, low, high, rfl⟩
  | _ => exact .inl rfl

theorem validLevels_loggerHandler {levels : LevelMap} (valid : ValidLevels levels)
    (queryStr : String) : ValidLevels (loggerHandler levels queryStr).2 := by
  rcases loggerHandler_levels levels queryStr with same | ⟨source, level, low, high, set⟩
  · rw [same]
    exact valid
  · rw [set]
    intro other level' stored
    rw [Function.update_apply] at stored
    split at stored
    · cases stored
      exact ⟨low, high⟩
    · exact valid other level' stored

/-- Two requests on the empty map. Setting a source the map does not hold adds it, and
`AdjustSourceLogLevel`'s `-1` for the new source is answered as an invalid source: an error
response for a request that changed the map. A query with two `=` gets the syntax error, and
the handler does not return after it: a second response follows, and the map is changed too. -/
theorem loggerHandler_error_changes_levels :
    (loggerHandler (fun _ => none) "newsource=INFO").1 =
        [errorResponse "invalid log source specified"] ∧
      (loggerHandler (fun _ => none) "newsource=INFO").2 "newsource" = some logLevelInfo ∧
      (loggerHandler (fun _ => none) "newsource=INFO=x").1 =
        [errorResponse "invalid logger syntax", errorResponse "invalid log source specified"] ∧
      (loggerHandler (fun _ => none) "newsource=INFO=x").2 "newsource" = some logLevelInfo := by
  decide

/-- The level maps of a running daemon: the one `Startup` loads from `config`, then one logger
request after another. -/
inductive LoggerServed (config : Option (List (String × String))) : LevelMap → Prop
  | startup : LoggerServed config (loggerStartup config)
  | request {levels : LevelMap} (queryStr : String) :
      LoggerServed config levels → LoggerServed config (loggerHandler levels queryStr).2

theorem loggerServed_validLevels {config : Option (List (String × String))} {levels : LevelMap}
    (served : LoggerServed config levels) : ValidLevels levels := by
  induction served with
  | startup => exact validLevels_loggerStartup config
  | request queryStr _ ih => exact validLevels_loggerHandler ih queryStr

/-- In a running daemon every source's level is a level of `logLevelName`, so naming the level a
source search returns never panics: an unknown source is `UNDEFINED`, a known one has its
level's name. -/
theorem loggerServed_findLogLevelName {config : Option (List (String × String))}
    {levels : LevelMap} (served : LoggerServed config levels) (source : String) :
    ∃ name, findLogLevelName (searchSourceLogLevel levels source) = .ok name := by
  unfold searchSourceLogLevel
  cases stored : levels source with
  | none => exact ⟨"UNDEFINED", rfl⟩
  | some level =>
      obtain ⟨low, high⟩ := loggerServed_validLevels served source level stored
      obtain ⟨name, named, -⟩ := logLevelNameAt_ok low high
      refine ⟨name, ?_⟩
      rw [Option.getD_some, findLogLevelName, if_neg (by omega), if_neg (by
        rw [logLevelName_length]
        omega)]
      exact named

/-- A request adds `newsource` at `TRACE`, the last level, and another sets `dispatch`; naming
the level of `newsource` then does not panic. -/
theorem loggerServed_findLogLevelName_dispatch :
    ∃ name, findLogLevelName (searchSourceLogLevel (loggerHandler (loggerHandler
      (loggerStartup none) "newsource=TRACE").2 "dispatch=DEBUG").2 "newsource") = .ok name :=
  loggerServed_findLogLevelName (.request "dispatch=DEBUG" (.request "newsource=TRACE" .startup))
    "newsource"

/-! ### Settings paths -/

/-- `RemoveEmptyStrings`. `b := strings[:0]` shares the backing array of `strings`, so each
`append` writes the kept string into that array at `b`'s length while the loop goes on reading
`strings` from it. The slice returned, and the backing array after the call. -/
def removeEmptyStrings (strings : List String) : List String × List String :=
  let (backing, length) := (List.range strings.length).foldl
    (fun (state : List String × Nat) i =>
      let x := state.1.getD i ""
      if x ≠ "" then (state.1.set state.2 x, state.2 + 1) else state)
    (strings, 0)
  (backing.take length, backing)

theorem removeEmptyStrings_loop (strings : List String) {i : Nat} (bound : i ≤ strings.length) :
    (List.range i).foldl
        (fun (state : List String × Nat) i =>
          let x := state.1.getD i ""
          if x ≠ "" then (state.1.set state.2 x, state.2 + 1) else state)
        (strings, 0) =
      ((strings.take i).filter (· ≠ "") ++ strings.drop ((strings.take i).filter (· ≠ "")).length,
        ((strings.take i).filter (· ≠ "")).length) := by
  induction i with
  | zero => simp
  | succ i ih =>
      rw [List.range_succ, List.foldl_append, ih (by omega), List.foldl_cons, List.foldl_nil]
      set kept := (strings.take i).filter (· ≠ "")
      have short : kept.length ≤ i :=
        (List.length_filter_le _ _).trans (List.length_take_le _ _)
      have below : i < strings.length := by omega
      have read : (kept ++ strings.drop kept.length).getD i "" = strings[i] := by
        rw [List.getD_eq_getElem?_getD, List.getElem?_append_right short, List.getElem?_drop,
          Nat.add_sub_cancel' short, List.getElem?_eq_getElem below, Option.getD_some]
      have taken : strings.take (i + 1) = strings.take i ++ [strings[i]] :=
        (List.take_concat_get' strings i below).symm
      dsimp only
      rw [read, taken, List.filter_append]
      by_cases empty : strings[i] = ""
      · have dropped : [strings[i]].filter (· ≠ "") = [] := by simp [empty]
        rw [if_neg (not_not.2 empty), dropped, List.append_nil]
      · have keptOne : [strings[i]].filter (· ≠ "") = [strings[i]] := by simp [empty]
        have written : (kept ++ strings.drop kept.length).set kept.length strings[i] =
            kept ++ strings[i] :: strings.drop (kept.length + 1) := by
          rw [List.set_append_right _ _ (le_refl _), Nat.sub_self,
            List.drop_eq_getElem_cons (by omega), List.set_cons_zero]
        rw [if_pos empty, keptOne, written, List.length_append, List.length_singleton,
          List.append_assoc, List.singleton_append]

/-- `RemoveEmptyStrings` returns the non-empty strings in their order, as `List.filter` does, and
leaves them in the first cells of the caller's array, whose other cells keep what they held. -/
theorem removeEmptyStrings_eq (strings : List String) :
    removeEmptyStrings strings =
      (strings.filter (· ≠ ""),
        strings.filter (· ≠ "") ++ strings.drop (strings.filter (· ≠ "")).length) := by
  unfold removeEmptyStrings
  rw [removeEmptyStrings_loop strings (le_refl _), List.take_length]
  simp

theorem removeEmptyStrings_fst (strings : List String) :
    (removeEmptyStrings strings).1 = strings.filter (· ≠ "") := by
  unfold removeEmptyStrings
  rw [removeEmptyStrings_loop strings (le_refl _), List.take_length]
  simp

theorem flatten_map_cons {α : Type} (sep : α) (parts : List (List α)) (nonempty : parts ≠ []) :
    (parts.map (sep :: ·)).flatten = [sep].intercalate ([] :: parts) := by
  induction parts with
  | nil => contradiction
  | cons part rest ih =>
      cases rest with
      | nil => simp [List.intercalate]
      | cons next rest =>
          rw [List.map_cons, List.flatten_cons, ih (List.cons_ne_nil _ _)]
          simp [List.intercalate, List.intersperse_cons_cons]

/-- The `segments` of `getSettings`, `getDefaultSettings`, `setSettings` and `trimSettings`: `nil`
(`none`) for an empty `path`, and otherwise `RemoveEmptyStrings(strings.Split(path, "/"))`. -/
def settingsSegments (path : String) : Option (List String) :=
  if path = "" then none else some (removeEmptyStrings (stringsSplit path '/')).1

example : settingsSegments "" = none ∧ settingsSegments "/" = some [] ∧
    settingsSegments "//uris/" = some ["uris"] := by decide

/-- A settings path `/a/b/…` of non-empty segments without `/` reads back as exactly its
segments. -/
theorem settingsSegments_join (segments : List String) (nonempty : segments ≠ [])
    (parts : ∀ segment ∈ segments, segment ≠ "" ∧ '/' ∉ segment.data) :
    settingsSegments (String.join (segments.map ("/" ++ ·))) = some segments := by
  have data : (String.join (segments.map ("/" ++ ·))).data =
      ['/'].intercalate ([] :: segments.map String.data) := by
    rw [String.data_join, List.map_map, ← flatten_map_cons _ _ (by simpa using nonempty)]
    simp [Function.comp_def]
  have split : stringsSplit (String.join (segments.map ("/" ++ ·))) '/' = "" :: segments := by
    rw [stringsSplit, data, List.splitOn_intercalate]
    · simp [Function.comp_def]
    · simp only [List.mem_cons, List.mem_map]
      rintro _ (rfl | ⟨segment, member, rfl⟩)
      · exact List.not_mem_nil _
      · exact (parts segment member).2
    · exact List.cons_ne_nil _ _
  have nonblank : String.join (segments.map ("/" ++ ·)) ≠ "" := by
    intro blank
    have := congrArg String.data blank
    rw [data] at this
    obtain ⟨segment, rest, rfl⟩ := List.exists_cons_of_ne_nil nonempty
    simp [List.intercalate, List.intersperse_cons_cons] at this
  rw [settingsSegments, if_neg nonblank, split, removeEmptyStrings_fst]
  rw [List.filter_cons_of_neg (by simp), List.filter_eq_self.2 fun segment member => by
    simpa using (parts segment member).1]

theorem settingsSegments_join_network :
    settingsSegments (String.join (["network", "interfaces"].map ("/" ++ ·))) =
      some ["network", "interfaces"] :=
  settingsSegments_join ["network", "interfaces"] (by decide) (by decide)

end Packetd
