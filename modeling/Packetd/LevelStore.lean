import Packetd.Restd

/-! The logger's level map as its goroutines share it. `logLevelMap` holds a pointer to an
`int32` cell for each source; the map is read under the read lock and written under the write
lock, and the cells are read and written with `atomic.LoadInt32` and `atomic.StoreInt32`. Each
call into the map is a sequence of these atomic steps: a logger request's `SearchSourceLogLevel`
or `AdjustSourceLogLevel`, and the `GetLogLevel` of any goroutine's `LogMessage`; the steps of
all calls interleave.

Run with no other step between its own, each call is the function on levels of `Logger` and
`Restd`, so one request after another is `LoggerServed`. Run together, a `GetLogLevel` can load
the `-1` that `AdjustSourceLogLevel` puts in a new cell before it stores the level, and that is
the only value outside `logLevelName` it can return. -/

namespace Packetd

/-- `logLevelMap`, the `int32` cells, and `next`, the first cell `new(int32)` has not handed
out. -/
structure LevelStore where
  logLevelMap : String → Option Nat
  cells : Nat → Int
  next : Nat

namespace LevelStore

def levels (store : LevelStore) : LevelMap := fun source =>
  (store.logLevelMap source).map store.cells

theorem levels_of_found {store : LevelStore} {source : String} {ptr : Nat}
    (found : store.logLevelMap source = some ptr) :
    store.levels source = some (store.cells ptr) := by
  simp [levels, found]

theorem levels_of_missing {store : LevelStore} {source : String}
    (missing : store.logLevelMap source = none) : store.levels source = none := by
  simp [levels, missing]

/-- `ptr = new(int32)` and the store into it, one step: no other goroutine can see the cell
before it is in the map. -/
def newCell (store : LevelStore) (level : Int) : LevelStore :=
  { store with cells := Function.update store.cells store.next level, next := store.next + 1 }

/-- `logLevelMap[source] = ptr` under the write lock. -/
def publish (store : LevelStore) (source : String) (ptr : Nat) : LevelStore :=
  { store with logLevelMap := Function.update store.logLevelMap source (some ptr) }

/-- `atomic.StoreInt32(ptr, level)`. -/
def storeCell (store : LevelStore) (ptr : Nat) (level : Int) : LevelStore :=
  { store with cells := Function.update store.cells ptr level }

@[simp] theorem newCell_logLevelMap (store : LevelStore) (level : Int) :
    (store.newCell level).logLevelMap = store.logLevelMap := rfl

@[simp] theorem newCell_cells (store : LevelStore) (level : Int) :
    (store.newCell level).cells = Function.update store.cells store.next level := rfl

@[simp] theorem newCell_next (store : LevelStore) (level : Int) :
    (store.newCell level).next = store.next + 1 := rfl

@[simp] theorem publish_logLevelMap (store : LevelStore) (source : String) (ptr : Nat) :
    (store.publish source ptr).logLevelMap =
      Function.update store.logLevelMap source (some ptr) := rfl

@[simp] theorem publish_cells (store : LevelStore) (source : String) (ptr : Nat) :
    (store.publish source ptr).cells = store.cells := rfl

@[simp] theorem publish_next (store : LevelStore) (source : String) (ptr : Nat) :
    (store.publish source ptr).next = store.next := rfl

@[simp] theorem storeCell_logLevelMap (store : LevelStore) (ptr : Nat) (level : Int) :
    (store.storeCell ptr level).logLevelMap = store.logLevelMap := rfl

@[simp] theorem storeCell_cells (store : LevelStore) (ptr : Nat) (level : Int) :
    (store.storeCell ptr level).cells = Function.update store.cells ptr level := rfl

structure Sound (store : LevelStore) : Prop where
  fresh : ∀ source ptr, store.logLevelMap source = some ptr → ptr < store.next
  separate : ∀ source source' ptr, store.logLevelMap source = some ptr →
    store.logLevelMap source' = some ptr → source = source'

variable {store : LevelStore}

theorem Sound.newCell_publish (sound : store.Sound) (source : String) (level : Int) :
    ((store.newCell level).publish source store.next).Sound where
  fresh other ptr found := by
    simp only [publish_logLevelMap, newCell_logLevelMap, publish_next, newCell_next,
      Function.update_apply] at found ⊢
    split at found
    · cases found
      omega
    · have := sound.fresh other ptr found
      omega
  separate one two ptr first second := by
    simp only [publish_logLevelMap, newCell_logLevelMap, Function.update_apply] at first second
    split at first <;> split at second
    · next isOne isTwo => rw [isOne, isTwo]
    · cases first
      exact absurd (sound.fresh _ _ second) (Nat.lt_irrefl _)
    · cases second
      exact absurd (sound.fresh _ _ first) (Nat.lt_irrefl _)
    · exact sound.separate one two ptr first second

theorem Sound.storeCell (sound : store.Sound) (ptr : Nat) (level : Int) :
    (store.storeCell ptr level).Sound :=
  ⟨sound.fresh, sound.separate⟩

theorem levels_newCell_publish (sound : store.Sound) (source : String) (level : Int) :
    ((store.newCell level).publish source store.next).levels =
      Function.update store.levels source (some level) := by
  funext other
  simp only [levels, publish_logLevelMap, publish_cells, newCell_logLevelMap, newCell_cells,
    Function.update_apply]
  split
  · simp
  · cases found : store.logLevelMap other with
    | none => rfl
    | some ptr => simp [(sound.fresh other ptr found).ne]

theorem levels_storeCell (sound : store.Sound) {source : String} {ptr : Nat}
    (found : store.logLevelMap source = some ptr) (level : Int) :
    (store.storeCell ptr level).levels = Function.update store.levels source (some level) := by
  funext other
  simp only [levels, storeCell_logLevelMap, storeCell_cells, Function.update_apply]
  split
  · next same => simp [same, found]
  · next different =>
      cases otherFound : store.logLevelMap other with
      | none => rfl
      | some ptr' =>
          have apart : ptr' ≠ ptr := fun same =>
            different (sound.separate _ _ _ otherFound (same ▸ found))
          simp [apart]

end LevelStore

/-! ### `Startup` -/

/-- One entry of `loadLoggerConfig`: a level it reads gets a new cell under the entry's name. -/
def loadEntryStore (store : LevelStore) (entry : String × String) : LevelStore :=
  if isCommentKey entry.1 then store
  else
    match configLevel entry.2 with
    | some level => (store.newCell level).publish entry.1 store.next
    | none => store

/-- The store after `Startup`: the configuration's entries in an empty `logLevelMap`. -/
def startupStore (config : Option (List (String × String))) : LevelStore :=
  (config.getD initLoggerConfig).foldl loadEntryStore ⟨fun _ => none, fun _ => 0, 0⟩

def LevelStore.CellsValid (store : LevelStore) : Prop :=
  ∀ ptr, 0 ≤ store.cells ptr ∧ store.cells ptr ≤ 8

theorem loadEntryStore_spec {store : LevelStore} (sound : store.Sound)
    (valid : store.CellsValid) (entry : String × String) :
    (loadEntryStore store entry).Sound ∧ (loadEntryStore store entry).CellsValid ∧
      (loadEntryStore store entry).levels = loadEntry store.levels entry := by
  unfold loadEntryStore loadEntry
  split
  · exact ⟨sound, valid, rfl⟩
  · cases read : configLevel entry.2 with
    | none => exact ⟨sound, valid, rfl⟩
    | some level =>
        refine ⟨sound.newCell_publish _ _, fun ptr => ?_,
          LevelStore.levels_newCell_publish sound _ _⟩
        simp only [LevelStore.publish_cells, LevelStore.newCell_cells, Function.update_apply]
        split
        · exact configLevel_range _ read
        · exact valid ptr

theorem startupStore_spec (config : Option (List (String × String))) :
    (startupStore config).Sound ∧ (startupStore config).CellsValid ∧
      (startupStore config).levels = loggerStartup config := by
  unfold startupStore loggerStartup loadLoggerConfig
  suffices loaded : ∀ (entries : List (String × String)) (store : LevelStore), store.Sound →
      store.CellsValid → (entries.foldl loadEntryStore store).Sound ∧
        (entries.foldl loadEntryStore store).CellsValid ∧
          (entries.foldl loadEntryStore store).levels = entries.foldl loadEntry store.levels from
    loaded _ ⟨fun _ => none, fun _ => 0, 0⟩
      ⟨fun _ _ found => (nomatch found), fun _ _ _ found => (nomatch found)⟩
      fun _ => ⟨le_refl 0, show (0 : Int) ≤ 8 by decide⟩
  intro entries
  induction entries with
  | nil => exact fun store sound valid => ⟨sound, valid, rfl⟩
  | cons entry rest ih =>
      intro store sound valid
      obtain ⟨sound', valid', levels'⟩ := loadEntryStore_spec sound valid entry
      rw [List.foldl_cons, List.foldl_cons, ← levels']
      exact ih _ sound' valid'

/-! ### The calls, one atomic step at a time -/

/-- Where `AdjustSourceLogLevel` is, named by its next atomic step. -/
inductive AdjustPc
  /-- The lookup under the read lock; a missing source gets a new cell holding `-1`. -/
  | start
  /-- The new cell goes into the map under the write lock. -/
  | created (ptr : Nat)
  /-- The previous level is loaded. -/
  | holding (ptr : Nat)
  /-- The new level is stored. -/
  | loaded (ptr : Nat) (prelvl : Int)
  | returned (prelvl : Int)

/-- Where `SearchSourceLogLevel` is: the lookup, then the load of the cell it found. -/
inductive SearchPc
  | start
  | holding (ptr : Nat)
  | returned (level : Int)

/-- Where `GetLogLevel` is: the function's lookup, the package's, then the load of the cell one
of them found. -/
inductive GetPc
  | function
  | package
  | holding (ptr : Nat)
  | returned (level : Int)

section Steps

variable (store : LevelStore)

/-- `AdjustSourceLogLevel source level`, one atomic step. -/
def adjustSourceLogLevel (source : String) (level : Int) : AdjustPc → AdjustPc × LevelStore
  | .start =>
      match store.logLevelMap source with
      | some ptr => (.holding ptr, store)
      | none => (.created store.next, store.newCell (-1))
  | .created ptr => (.holding ptr, store.publish source ptr)
  | .holding ptr => (.loaded ptr (store.cells ptr), store)
  | .loaded ptr prelvl => (.returned prelvl, store.storeCell ptr level)
  | .returned prelvl => (.returned prelvl, store)

/-- `SearchSourceLogLevel source`, one atomic step. -/
def searchSourceLogLevelStep (source : String) : SearchPc → SearchPc
  | .start =>
      match store.logLevelMap source with
      | some ptr => .holding ptr
      | none => .returned (-1)
  | .holding ptr => .returned (store.cells ptr)
  | .returned level => .returned level

/-- The cell `GetLogLevel` finds for a name; the empty name is not looked up. -/
def configuredCell (name : String) : Option Nat :=
  if name.length = 0 then none else store.logLevelMap name

/-- `GetLogLevel packageName functionName`, one atomic step. -/
def getLogLevelStep (packageName functionName : String) : GetPc → GetPc
  | .function =>
      match configuredCell store functionName with
      | some ptr => .holding ptr
      | none => .package
  | .package =>
      match configuredCell store packageName with
      | some ptr => .holding ptr
      | none => .returned logLevelInfo
  | .holding ptr => .returned (store.cells ptr)
  | .returned level => .returned level

end Steps

/-- A goroutine's call into the level map, and where it is. -/
inductive Goroutine
  /-- A logger request, before it reads its query. -/
  | request (queryStr : String)
  | searching (source : String) (syntaxError : List Response) (pc : SearchPc)
  | adjusting (source : String) (setlevel : Int) (syntaxError : List Response) (pc : AdjustPc)
  /-- The request has sent these responses. -/
  | responded (responses : List Response)
  /-- The `GetLogLevel` of a `LogMessage`. -/
  | getting (packageName functionName : String) (pc : GetPc)

/-- A goroutine's next step, or none once it has responded or returned. Reading the query and
sending the responses are steps of their own that touch no shared state. -/
def goroutineStep (store : LevelStore) : Goroutine → Option (Goroutine × LevelStore)
  | .request queryStr =>
      some (match loggerQuery queryStr with
        | .answered responses => .responded responses
        | .search source syntaxError => .searching source syntaxError .start
        | .adjust source setlevel syntaxError => .adjusting source setlevel syntaxError .start,
        store)
  | .searching source syntaxError (.returned level) =>
      some (.responded (searchResponses source syntaxError level), store)
  | .searching source syntaxError pc =>
      some (.searching source syntaxError (searchSourceLogLevelStep store source pc), store)
  | .adjusting source setlevel syntaxError (.returned prelvl) =>
      some (.responded (adjustResponses source setlevel syntaxError prelvl), store)
  | .adjusting source setlevel syntaxError pc =>
      let stepped := adjustSourceLogLevel store source setlevel pc
      some (.adjusting source setlevel syntaxError stepped.1, stepped.2)
  | .responded _ => none
  | .getting _ _ (.returned _) => none
  | .getting packageName functionName pc =>
      some (.getting packageName functionName (getLogLevelStep store packageName functionName pc),
        store)

def runAlone : Nat → LevelStore → Goroutine → Goroutine × LevelStore
  | 0, store, g => (g, store)
  | fuel + 1, store, g =>
      match goroutineStep store g with
      | some next => runAlone fuel next.2 next.1
      | none => (g, store)

/-! ### A call alone is the sequential function -/

section Alone

variable {store : LevelStore}

theorem configuredCell_levels (name : String) :
    (configuredCell store name).map store.cells = configuredLevel store.levels name := by
  unfold configuredCell configuredLevel
  split <;> rfl

/-- `GetLogLevel` with no other goroutine between its atomic steps returns, in at most three of
them, the level the sequential `getLogLevel` reads from the store's levels, and changes nothing. -/
theorem getLogLevel_alone (packageName functionName : String) :
    runAlone 3 store (.getting packageName functionName .function) =
      (.getting packageName functionName (.returned (getLogLevel store.levels packageName
        functionName)), store) := by
  have function : (configuredCell store functionName).map store.cells =
      configuredLevel store.levels functionName := configuredCell_levels functionName
  have package : (configuredCell store packageName).map store.cells =
      configuredLevel store.levels packageName := configuredCell_levels packageName
  rw [getLogLevel_eq]
  cases foundFunction : configuredCell store functionName with
  | some ptr =>
      rw [foundFunction] at function
      simp [runAlone, goroutineStep, getLogLevelStep, foundFunction, ← function]
  | none =>
      rw [foundFunction] at function
      cases foundPackage : configuredCell store packageName with
      | some ptr =>
          rw [foundPackage] at package
          simp [runAlone, goroutineStep, getLogLevelStep, foundFunction, foundPackage,
            ← function, ← package]
      | none =>
          rw [foundPackage] at package
          simp [runAlone, goroutineStep, getLogLevelStep, foundFunction, foundPackage,
            ← function, ← package]

theorem request_alone (sound : store.Sound) (queryStr : String) :
    (runAlone 6 store (.request queryStr)).1 = .responded (loggerHandler store.levels queryStr).1 ∧
      (runAlone 6 store (.request queryStr)).2.levels = (loggerHandler store.levels queryStr).2 ∧
      (runAlone 6 store (.request queryStr)).2.Sound := by
  unfold loggerHandler
  cases queried : loggerQuery queryStr with
  | answered responses =>
      simp [runAlone, goroutineStep, queried, sound]
  | search source syntaxError =>
      cases found : store.logLevelMap source with
      | none =>
          simp [runAlone, goroutineStep, searchSourceLogLevelStep, queried, found, sound,
            searchSourceLogLevel, LevelStore.levels]
      | some ptr =>
          simp [runAlone, goroutineStep, searchSourceLogLevelStep, queried, found, sound,
            searchSourceLogLevel, LevelStore.levels]
  | adjust source setlevel syntaxError =>
      cases found : store.logLevelMap source with
      | none =>
          have sound' := sound.newCell_publish source (-1)
          have published : ((store.newCell (-1)).publish source store.next).logLevelMap source =
              some store.next := by simp
          simp [runAlone, goroutineStep, adjustSourceLogLevel, queried, found, adjustLevelMap,
            LevelStore.levels_of_missing found, LevelStore.levels_storeCell sound' published,
            LevelStore.levels_newCell_publish sound, sound'.storeCell]
      | some ptr =>
          simp [runAlone, goroutineStep, adjustSourceLogLevel, queried, found, adjustLevelMap,
            LevelStore.levels_of_found found, LevelStore.levels_storeCell sound found,
            sound.storeCell]

/-- Logger requests one after another, each run alone. -/
def serveAlone (store : LevelStore) (queries : List String) : LevelStore :=
  queries.foldl (fun store queryStr => (runAlone 6 store (.request queryStr)).2) store

end Alone

/-! ### Interleaved calls -/

structure LevelWorld where
  store : LevelStore
  goroutines : Nat → Goroutine

/-- Goroutine `g` makes its next step. -/
def LevelWorld.step (world : LevelWorld) (g : Nat) : Option LevelWorld :=
  (goroutineStep world.store (world.goroutines g)).map fun next =>
    ⟨next.2, Function.update world.goroutines g next.1⟩

/-- The call a goroutine makes: a logger request with its query, or a `GetLogLevel`. -/
inductive LevelCall
  | request (queryStr : String)
  | getLogLevel (packageName functionName : String)

def LevelCall.start : LevelCall → Goroutine
  | .request queryStr => .request queryStr
  | .getLogLevel packageName functionName => .getting packageName functionName .function

def levelStart (config : Option (List (String × String))) (calls : Nat → LevelCall) :
    LevelWorld :=
  ⟨startupStore config, fun g => (calls g).start⟩

inductive LevelReachable (start : LevelWorld) : LevelWorld → Prop
  | init : LevelReachable start start
  | step {world world' : LevelWorld} (g : Nat) : LevelReachable start world →
      world.step g = some world' → LevelReachable start world'

def runLevels (world : LevelWorld) : List Nat → Option LevelWorld
  | [] => some world
  | g :: moves => (world.step g).bind fun world' => runLevels world' moves

theorem reachable_runLevels {start : LevelWorld} :
    ∀ (moves : List Nat) (world world' : LevelWorld), LevelReachable start world →
      runLevels world moves = some world' → LevelReachable start world'
  | [], _, _, reached, ran => Option.some.inj ran ▸ reached
  | g :: moves, world, world', reached, ran => by
      simp only [runLevels, Option.bind_eq_some] at ran
      obtain ⟨next, stepped, ran⟩ := ran
      exact reachable_runLevels moves next world' (.step g reached stepped) ran

def AdjustPc.Holds (ptr : Nat) : AdjustPc → Prop
  | .created p | .holding p | .loaded p _ => p = ptr
  | .start | .returned _ => False

def Goroutine.Pending (ptr : Nat) : Goroutine → Prop
  | .adjusting _ _ _ pc => pc.Holds ptr
  | _ => False

def Goroutine.SetsLevel : Goroutine → Prop
  | .adjusting _ setlevel _ _ => 0 ≤ setlevel ∧ setlevel ≤ 8
  | _ => True

/-- Cell `ptr` holds a level of `logLevelName`, or `-1` while an `AdjustSourceLogLevel` holds it
before its store. -/
def CellHolds (store : LevelStore) (goroutines : Nat → Goroutine) (ptr : Nat) : Prop :=
  (0 ≤ store.cells ptr ∧ store.cells ptr ≤ 8) ∨
    (store.cells ptr = -1 ∧ ∃ g, (goroutines g).Pending ptr)

structure LevelInv (world : LevelWorld) : Prop where
  cells : ∀ ptr, CellHolds world.store world.goroutines ptr
  setsLevel : ∀ g, (world.goroutines g).SetsLevel

theorem goroutineStep_cases {store store' : LevelStore} {g g' : Goroutine}
    (stepped : goroutineStep store g = some (g', store')) :
    (store'.cells = store.cells ∧ (∀ ptr, g.Pending ptr → g'.Pending ptr) ∧
        (g.SetsLevel → g'.SetsLevel)) ∨
      (∃ source setlevel syntaxError, g = .adjusting source setlevel syntaxError .start ∧
        g' = .adjusting source setlevel syntaxError (.created store.next) ∧
        store' = store.newCell (-1)) ∨
      ∃ source setlevel syntaxError ptr prelvl,
        g = .adjusting source setlevel syntaxError (.loaded ptr prelvl) ∧
        g' = .adjusting source setlevel syntaxError (.returned prelvl) ∧
        store' = store.storeCell ptr setlevel := by
  cases g with
  | request queryStr =>
      simp only [goroutineStep, Option.some.injEq, Prod.mk.injEq] at stepped
      obtain ⟨rfl, rfl⟩ := stepped
      refine .inl ⟨rfl, fun _ => False.elim, fun _ => ?_⟩
      cases queried : loggerQuery queryStr with
      | adjust source setlevel syntaxError => exact loggerQuery_setlevel queried
      | _ => trivial
  | searching source syntaxError pc =>
      cases pc <;> simp only [goroutineStep, Option.some.injEq, Prod.mk.injEq] at stepped <;>
        obtain ⟨rfl, rfl⟩ := stepped <;> exact .inl ⟨rfl, fun _ => False.elim, fun _ => trivial⟩
  | adjusting source setlevel syntaxError pc =>
      cases pc with
      | start =>
          simp only [goroutineStep, adjustSourceLogLevel] at stepped
          split at stepped
          · simp only [Option.some.injEq, Prod.mk.injEq] at stepped
            obtain ⟨rfl, rfl⟩ := stepped
            exact .inl ⟨rfl, fun _ => False.elim, id⟩
          · simp only [Option.some.injEq, Prod.mk.injEq] at stepped
            obtain ⟨rfl, rfl⟩ := stepped
            exact .inr (.inl ⟨_, _, _, rfl, rfl, rfl⟩)
      | created ptr | holding ptr =>
          simp only [goroutineStep, adjustSourceLogLevel, Option.some.injEq, Prod.mk.injEq]
            at stepped
          obtain ⟨rfl, rfl⟩ := stepped
          exact .inl ⟨rfl, fun _ => id, id⟩
      | loaded ptr prelvl =>
          simp only [goroutineStep, adjustSourceLogLevel, Option.some.injEq, Prod.mk.injEq]
            at stepped
          obtain ⟨rfl, rfl⟩ := stepped
          exact .inr (.inr ⟨_, _, _, _, _, rfl, rfl, rfl⟩)
      | returned prelvl =>
          simp only [goroutineStep, Option.some.injEq, Prod.mk.injEq] at stepped
          obtain ⟨rfl, rfl⟩ := stepped
          exact .inl ⟨rfl, fun _ => False.elim, fun _ => trivial⟩
  | responded responses => cases stepped
  | getting packageName functionName pc =>
      cases pc <;> simp only [goroutineStep, Option.some.injEq, Prod.mk.injEq] at stepped <;>
        obtain ⟨rfl, rfl⟩ := stepped <;> exact .inl ⟨rfl, fun _ => False.elim, fun _ => trivial⟩

theorem goroutineStep_getting_returned {store store' : LevelStore} {g : Goroutine}
    {packageName functionName : String} {level : Int}
    (stepped : goroutineStep store g =
      some (.getting packageName functionName (.returned level), store')) :
    (g = .getting packageName functionName .package ∧ level = logLevelInfo) ∨
      ∃ ptr, g = .getting packageName functionName (.holding ptr) ∧ level = store.cells ptr := by
  cases g with
  | request queryStr =>
      simp only [goroutineStep, Option.some.injEq, Prod.mk.injEq] at stepped
      split at stepped <;> simp at stepped
  | getting p f pc =>
      cases pc with
      | function =>
          simp only [goroutineStep, getLogLevelStep] at stepped
          split at stepped <;> simp at stepped
      | package =>
          simp only [goroutineStep, getLogLevelStep] at stepped
          split at stepped
          · simp at stepped
          · simp only [Option.some.injEq, Prod.mk.injEq, Goroutine.getting.injEq,
              GetPc.returned.injEq] at stepped
            obtain ⟨⟨rfl, rfl, rfl⟩, -⟩ := stepped
            exact .inl ⟨rfl, rfl⟩
      | holding ptr =>
          simp only [goroutineStep, getLogLevelStep, Option.some.injEq, Prod.mk.injEq,
            Goroutine.getting.injEq, GetPc.returned.injEq] at stepped
          obtain ⟨⟨rfl, rfl, rfl⟩, -⟩ := stepped
          exact .inr ⟨ptr, rfl, rfl⟩
      | returned _ => cases stepped
  | searching source syntaxError pc => cases pc <;> simp [goroutineStep] at stepped
  | adjusting source setlevel syntaxError pc => cases pc <;> simp [goroutineStep] at stepped
  | responded responses => cases stepped

theorem CellHolds.update {store store' : LevelStore} {goroutines : Nat → Goroutine} {g : Nat}
    {g' : Goroutine} {ptr : Nat} (holds : CellHolds store goroutines ptr)
    (kept : store'.cells ptr = store.cells ptr)
    (pending : (goroutines g).Pending ptr → g'.Pending ptr) :
    CellHolds store' (Function.update goroutines g g') ptr := by
  rw [CellHolds, kept]
  rcases holds with valid | ⟨held, h, pendingH⟩
  · exact .inl valid
  · refine .inr ⟨held, h, ?_⟩
    by_cases same : h = g
    · subst same
      rw [Function.update_same]
      exact pending pendingH
    · rwa [Function.update_noteq same]

theorem levelInv_start (config : Option (List (String × String))) (calls : Nat → LevelCall) :
    LevelInv (levelStart config calls) where
  cells ptr := .inl ((startupStore_spec config).2.1 ptr)
  setsLevel g := by
    show (calls g).start.SetsLevel
    cases calls g <;> trivial

theorem LevelInv.step {world world' : LevelWorld} (inv : LevelInv world) {g : Nat}
    (stepped : world.step g = some world') : LevelInv world' := by
  obtain ⟨⟨g', store'⟩, goroutineStepped, rfl⟩ := Option.map_eq_some'.1 stepped
  have setsLevel : ∀ h, (Function.update world.goroutines g g' h).SetsLevel := fun h => by
    by_cases same : h = g
    · subst same
      rw [Function.update_same]
      rcases goroutineStep_cases goroutineStepped with ⟨-, -, sets⟩ | ⟨_, _, _, before, rfl, -⟩ |
        ⟨_, _, _, _, _, before, rfl, -⟩
      · exact sets (inv.setsLevel h)
      all_goals
        have sets := inv.setsLevel h
        rwa [before] at sets
    · rw [Function.update_noteq same]
      exact inv.setsLevel h
  refine ⟨fun ptr => ?_, setsLevel⟩
  rcases goroutineStep_cases goroutineStepped with ⟨cells, pending, -⟩ |
    ⟨source, setlevel, syntaxError, before, rfl, rfl⟩ |
    ⟨source, setlevel, syntaxError, cell, prelvl, before, rfl, rfl⟩
  · exact (inv.cells ptr).update (by rw [cells]) (pending ptr)
  · by_cases fresh : ptr = world.store.next
    · subst fresh
      exact .inr ⟨by simp, g, by simp [Goroutine.Pending, AdjustPc.Holds]⟩
    · refine (inv.cells ptr).update (by simp [fresh]) ?_
      rw [before]
      exact False.elim
  · by_cases stored : ptr = cell
    · subst stored
      have sets := inv.setsLevel g
      rw [before] at sets
      exact .inl (by simpa using sets)
    · refine (inv.cells ptr).update (by simp [stored]) ?_
      rw [before]
      exact fun held => absurd held.symm stored

theorem levelInv_reachable {config : Option (List (String × String))} {calls : Nat → LevelCall}
    {world : LevelWorld} (reached : LevelReachable (levelStart config calls) world) :
    LevelInv world := by
  induction reached with
  | init => exact levelInv_start config calls
  | step g _ stepped ih => exact ih.step stepped

/-- In any interleaving of logger requests and `GetLogLevel` calls, from the store `Startup`
leaves, `GetLogLevel` returns a level of `logLevelName`, or `-1` when the cell it loads is one
that an `AdjustSourceLogLevel` holds and has not stored its level in yet. -/
theorem getLogLevel_interleaved {config : Option (List (String × String))}
    {calls : Nat → LevelCall} {world world' : LevelWorld}
    (reached : LevelReachable (levelStart config calls) world) {g : Nat}
    (stepped : world.step g = some world') {packageName functionName : String} {level : Int}
    (returned : world'.goroutines g = .getting packageName functionName (.returned level)) :
    (0 ≤ level ∧ level ≤ 8) ∨
      ∃ ptr, world.goroutines g = .getting packageName functionName (.holding ptr) ∧
        level = -1 ∧ ∃ adjuster, (world.goroutines adjuster).Pending ptr := by
  obtain ⟨⟨g', store'⟩, goroutineStepped, rfl⟩ := Option.map_eq_some'.1 stepped
  simp only [Function.update_same] at returned
  subst returned
  rcases goroutineStep_getting_returned goroutineStepped with ⟨-, rfl⟩ | ⟨ptr, loading, rfl⟩
  · exact .inl ⟨by decide, by decide⟩
  · rcases (levelInv_reachable reached).cells ptr with valid | ⟨held, adjuster, pending⟩
    · exact .inl valid
    · exact .inr ⟨ptr, loading, held, adjuster, pending⟩

def newSourceCalls : Nat → LevelCall
  | 0 => .request "newsource=INFO"
  | _ => .getLogLevel "newsource" ""

/-- The request reads its query, finds no cell for `newsource`, makes one holding `-1` and puts
it in the map; then `GetLogLevel` finds the cell and loads `-1` before the request stores
`INFO`. -/
theorem getLogLevel_interleaved_newSource :
    ∃ world world', LevelReachable (levelStart none newSourceCalls) world ∧
      world.step 1 = some world' ∧
      world'.goroutines 1 = .getting "newsource" "" (.returned (-1)) ∧
      ((0 ≤ (-1 : Int) ∧ (-1 : Int) ≤ 8) ∨
        ∃ ptr, world.goroutines 1 = .getting "newsource" "" (.holding ptr) ∧
          (-1 : Int) = -1 ∧ ∃ adjuster, (world.goroutines adjuster).Pending ptr) :=
  have reached :=
    @reachable_runLevels (levelStart none newSourceCalls) [0, 0, 0, 1, 1] _ _ .init rfl
  ⟨_, _, reached, rfl, rfl,
    @getLogLevel_interleaved none newSourceCalls _ _ reached 1 rfl "newsource" "" (-1) rfl⟩

end Packetd
