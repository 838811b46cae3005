/-
# StartSignal.Proofs.Log.FilterText -- what a filter text says of its configuration

The filter text is the name of the default level and one directive for each module, joined by
commas (`toList_filterText`).  Nothing is escaped in it.  Cut at the commas again it gives
those pieces back exactly if no module's name has a comma in it (`pieces_iff`), and a piece is
read at its last equals sign, since the name of a level has none (`readDirective?_text`).

A name with a comma in it does more than to be misread: what stands behind the comma is a
directive of its own, for another module.

Main result: `filterText_determines`.
-/
import StartSignal.Log.Config
import StartSignal.Proofs.Text.Split

namespace StartSignal.Log

open Text

/-- A piece of a filter text, read as a module and its level: the last equals sign stands
between them. -/
def readDirective? (piece : List Char) : Option (String × Level) := do
  let (name, level) ← splitLast? '=' piece
  let l ← Level.parse? (String.ofList level)
  return (String.ofList name, l)

/-- A filter text, read as the default level and the levels of modules. -/
def readFilterText? (text : String) : Option (Level × List (String × Level)) :=
  match splitOn ',' text.toList with
  | [] => none
  | first :: pieces => do
    let level ← Level.parse? (String.ofList first)
    let moduleLevels ← pieces.mapM readDirective?
    return (level, moduleLevels)

def Config.CommaFree (c : Config) : Prop := ∀ m ∈ c.moduleLevels, ',' ∉ m.1.toList

/-! ## One directive -/

theorem Level.notMem_lowerName (l : Level) :
    ',' ∉ l.lowerName.toList ∧ '=' ∉ l.lowerName.toList := by
  cases l <;> decide

theorem Level.parse?_lowerName (l : Level) : Level.parse? l.lowerName = some l := by
  cases l <;> rfl

theorem toList_directiveText (m : String × Level) :
    (Config.directiveText m).toList = m.1.toList ++ '=' :: m.2.lowerName.toList := by
  simp [Config.directiveText]

theorem readDirective?_text (m : String × Level) :
    readDirective? (Config.directiveText m).toList = some m := by
  have parted : splitLast? '=' (Config.directiveText m).toList =
      some (m.1.toList, m.2.lowerName.toList) :=
    splitLast?_eq_some_iff.mpr ⟨toList_directiveText m, m.2.notMem_lowerName.2⟩
  simp [readDirective?, parted, Level.parse?_lowerName]

/-- The name that is read from a piece stands in it. -/
theorem subset_of_readDirective? {piece : List Char} {m : String × Level}
    (read : readDirective? piece = some m) : m.1.toList ⊆ piece := by
  obtain ⟨⟨name, level⟩, parted, readLevel⟩ := Option.bind_eq_some_iff.mp read
  obtain ⟨l, -, whole⟩ := Option.bind_eq_some_iff.mp readLevel
  cases whole
  obtain ⟨rfl, -⟩ := splitLast?_eq_some_iff.mp parted
  rw [String.toList_ofList]
  exact List.subset_append_left _ _

/-! ## The pieces -/

namespace Config

/-- The default level and the directives of a configuration. -/
def pieces (c : Config) : List (List Char) :=
  c.level.lowerName.toList :: c.moduleLevels.map fun m => (directiveText m).toList

theorem joinWith_merge (sep : Char) (a b : List Char) (segments : List (List Char)) :
    joinWith sep ((a ++ sep :: b) :: segments) = joinWith sep (a :: b :: segments) := by
  cases segments <;> simp [joinWith]

theorem toList_filterText (c : Config) : c.filterText.toList = joinWith ',' c.pieces := by
  have run : ∀ (ms : List (String × Level)) (s : String),
      (ms.foldl (fun s m => s ++ "," ++ directiveText m) s).toList =
        joinWith ',' (s.toList :: ms.map fun m => (directiveText m).toList) := by
    intro ms
    induction ms with
    | nil => simp [joinWith]
    | cons m ms ih =>
      intro s
      have longer : (s ++ "," ++ directiveText m).toList =
          s.toList ++ ',' :: (directiveText m).toList := by
        simp
      rw [List.foldl_cons, ih, longer, joinWith_merge, List.map_cons]
  exact run c.moduleLevels c.level.lowerName

theorem pieces_iff {c : Config} :
    splitOn ',' c.filterText.toList = c.pieces ↔ c.CommaFree := by
  constructor
  · intro same m member comma
    have piece : (directiveText m).toList ∈ splitOn ',' c.filterText.toList := by
      rw [same]
      exact List.mem_cons_of_mem _ (List.mem_map_of_mem member)
    apply notMem_of_mem_splitOn _ piece
    rw [toList_directiveText]
    exact List.mem_append_left _ comma
  · intro free
    rw [toList_filterText]
    refine splitOn_joinWith (List.cons_ne_nil _ _) ?_
    refine List.forall_mem_cons.mpr ⟨c.level.notMem_lowerName.1, fun s member => ?_⟩
    obtain ⟨m, among, rfl⟩ := List.mem_map.mp member
    rw [toList_directiveText]
    simp only [List.mem_append, List.mem_cons, not_or]
    exact ⟨free m among, by decide, m.2.notMem_lowerName.1⟩

theorem CommaFree.readFilterText?_eq {c : Config} (free : c.CommaFree) :
    readFilterText? c.filterText = some (c.level, c.moduleLevels) := by
  have read : (c.moduleLevels.map fun m => (directiveText m).toList).mapM readDirective? =
      some c.moduleLevels := by
    rw [mapM_eq_some_iff, List.map_map]
    exact List.map_congr_left fun m _ => readDirective?_text m
  rw [readFilterText?, pieces_iff.mpr free, pieces]
  simp [read, Level.parse?_lowerName]

/-- The names that are read from a filter text have no commas. -/
theorem commaFree_of_readFilterText? {text : String} {level : Level}
    {moduleLevels : List (String × Level)}
    (read : readFilterText? text = some (level, moduleLevels)) :
    ∀ m ∈ moduleLevels, ',' ∉ m.1.toList := by
  have free : ∀ s ∈ splitOn ',' text.toList, ',' ∉ s := notMem_of_mem_splitOn
  unfold readFilterText? at read
  cases segments : splitOn ',' text.toList with
  | nil =>
    rw [segments] at read
    cases read
  | cons first rest =>
    rw [segments] at read free
    obtain ⟨l, -, readRest⟩ := Option.bind_eq_some_iff.mp read
    obtain ⟨ms, readPieces, same⟩ := Option.bind_eq_some_iff.mp readRest
    cases same
    rw [mapM_eq_some_iff] at readPieces
    intro m member
    have among : some m ∈ rest.map readDirective? := by
      rw [readPieces]
      exact List.mem_map_of_mem member
    obtain ⟨piece, inside, readPiece⟩ := List.mem_map.mp among
    exact fun comma =>
      free piece (List.mem_cons_of_mem _ inside) (subset_of_readDirective? readPiece comma)

end Config

/-! ## Main result -/

open Config

/-- What the filter text of a configuration says. -/
structure Determines (c : Config) : Prop where
  /-- It is read as the levels of the configuration if no name has a comma in it, and only
  then. -/
  readBack : readFilterText? c.filterText = some (c.level, c.moduleLevels) ↔ c.CommaFree
  /-- Under the same condition it falls into the default level and one directive for each
  module. -/
  pieces : splitOn ',' c.filterText.toList = c.pieces ↔ c.CommaFree
  /-- Among such configurations those with the same levels have the same text, and no others. -/
  alike : c.CommaFree → ∀ c' : Config, c'.CommaFree →
    (c.filterText = c'.filterText ↔ c.level = c'.level ∧ c.moduleLevels = c'.moduleLevels)

/-- **A filter text determines the levels of its configuration, as long as no module's name has
a comma in it.** -/
theorem filterText_determines (c : Config) : Determines c := by
  constructor
  case readBack =>
    exact ⟨commaFree_of_readFilterText?, CommaFree.readFilterText?_eq⟩
  case pieces => exact pieces_iff
  case alike =>
    intro free c' free'
    constructor
    · intro same
      have read := free.readFilterText?_eq
      rw [same, free'.readFilterText?_eq] at read
      obtain ⟨level, moduleLevels⟩ := Prod.mk.inj (Option.some.inj read)
      exact ⟨level.symm, moduleLevels.symm⟩
    · rintro ⟨level, moduleLevels⟩
      rw [filterText, filterText, level, moduleLevels]

/-- A comma in a name hides a second directive. -/
example :
    (⟨.info, [("a=debug,b", .warn)], .json⟩ : Config).filterText =
      (⟨.info, [("a", .debug), ("b", .warn)], .json⟩ : Config).filterText := by
  decide

end StartSignal.Log
