/-
# StartSignal.Proofs.Settings.LogLevels -- every level in the settings is accounted for

The levels of modules stand in the settings as texts.  A text that names a level puts its
module into the configuration of the log; any other is told of.  So the entries are parted in
two, and neither part is disturbed in its order (`interleaved`): the entries that are placed
are the levels of modules one for one (`forall₂_placed`), and those that are not are the texts
that are told, behind the one about the default level if that names no level either
(`ignored_eq`).  One pass over the entries, each of which goes to the end of one of the two
lists, fills both of them (`foldl_place`).

What is told of an entry is a text with an equals sign in it, and nothing is escaped.  Since
the text of a level has no equals sign, the entry that is told can only be mistaken for one
with an equals sign in its name (`eq_of_text_eq`).

Main result: `levels_accounted`.
-/
import Mathlib.Data.List.Basic
import StartSignal.Proofs.Interleaved
import StartSignal.Proofs.Json.Ordered
import StartSignal.Proofs.Log.Level
import StartSignal.Settings.Basic

namespace StartSignal.LoggingSettings

open Log

variable {s : LoggingSettings} {m m' : String × String}

/-- The entries whose text names a level, in order. -/
def placed (s : LoggingSettings) : Members String :=
  s.modules.filter fun m => (Level.parse? m.2).isSome

/-- The entries whose text names none, in order. -/
def unplaced (s : LoggingSettings) : Members String :=
  s.modules.filter fun m => !(Level.parse? m.2).isSome

/-- What is told of the default level. -/
def ignoredFirst (s : LoggingSettings) : List String :=
  if (Level.parse? s.level).isNone then [ignoredLevel s.level] else []

/-- One entry at the end of one of the two lists. -/
def place (lists : List (String × Level) × List String) (m : String × String) :
    List (String × Level) × List String :=
  match Level.parse? m.2 with
  | some l => (lists.1 ++ [(m.1, l)], lists.2)
  | none => (lists.1, lists.2 ++ [ignoredModule m])

/-! ## The two parts -/

theorem interleaved (s : LoggingSettings) : Interleaved s.placed s.unplaced s.modules :=
  .filter_filter _ s.modules

theorem mem_unplaced_iff : m ∈ s.unplaced ↔ m ∈ s.modules ∧ ¬ NamesLevel m.2 := by
  rw [unplaced, List.mem_filter, ← Level.isSome_parse?_iff, Bool.not_eq_true', Bool.not_eq_true]

theorem mem_moduleLevels_iff {p : String × Level} :
    p ∈ s.moduleLevels ↔ ∃ m ∈ s.modules, p.1 = m.1 ∧ p.2.NamedBy m.2 := by
  simp only [moduleLevels, List.mem_filterMap, Option.map_eq_some_iff, Level.parse?_eq_some_iff]
  constructor
  · rintro ⟨m, member, l, named, rfl⟩
    exact ⟨m, member, rfl, named⟩
  · rintro ⟨m, member, same, named⟩
    exact ⟨m, member, p.2, named, Prod.ext same.symm rfl⟩

/-- Where every name stands once, the level of a module is the one its own text names. -/
theorem mem_moduleLevels_iff_of_ordered (ordered : Members.Ordered s.modules)
    (member : m ∈ s.modules) {l : Level} : (m.1, l) ∈ s.moduleLevels ↔ l.NamedBy m.2 := by
  refine mem_moduleLevels_iff.trans ⟨?_, fun named => ⟨m, member, rfl, named⟩⟩
  rintro ⟨m', member', same, named⟩
  -- The two entries have one name, so they are one.
  have found := ordered.get?_of_mem member'
  rw [← same, ordered.get?_of_mem member] at found
  rw [Option.some.inj found]
  exact named

theorem forall₂_placed (s : LoggingSettings) :
    List.Forall₂ (fun m p => p.1 = m.1 ∧ p.2.NamedBy m.2) s.placed s.moduleLevels := by
  have run : ∀ ms : Members String,
      List.Forall₂ (fun m (p : String × Level) => p.1 = m.1 ∧ p.2.NamedBy m.2)
        (ms.filter fun m => (Level.parse? m.2).isSome)
        (ms.filterMap fun m => (Level.parse? m.2).map fun l => (m.1, l)) := by
    intro ms
    induction ms with
    | nil => exact .nil
    | cons m ms ih =>
      cases read : Level.parse? m.2 with
      | none => simpa [read] using ih
      | some l => simpa [read] using ⟨Level.parse?_eq_some_iff.mp read, ih⟩
  exact run s.modules

theorem ignored_eq (s : LoggingSettings) :
    s.ignored = s.ignoredFirst ++ s.unplaced.map ignoredModule := by
  simp only [ignored, ignoredFirst, unplaced, Option.not_isSome]

theorem ignoredFirst_of_names (names : NamesLevel s.level) : s.ignoredFirst = [] := by
  have read := Level.isSome_parse?_iff.mpr names
  rw [ignoredFirst, if_neg]
  simp [Option.isSome_iff_ne_none.mp read]

theorem ignoredFirst_of_unnamed (unnamed : ¬ NamesLevel s.level) :
    s.ignoredFirst = [ignoredLevel s.level] := by
  rw [ignoredFirst, if_pos]
  rw [Level.parse?_eq_none_iff.mpr unnamed]
  rfl

theorem ignored_of_names (names : NamesLevel s.level) :
    s.ignored = s.unplaced.map ignoredModule := by
  rw [ignored_eq, ignoredFirst_of_names names]
  rfl

theorem ignored_of_unnamed (unnamed : ¬ NamesLevel s.level) :
    s.ignored = ignoredLevel s.level :: s.unplaced.map ignoredModule := by
  rw [ignored_eq, ignoredFirst_of_unnamed unnamed]
  rfl

theorem ignored_eq_nil_iff :
    s.ignored = [] ↔ NamesLevel s.level ∧ ∀ m ∈ s.modules, NamesLevel m.2 := by
  constructor
  · intro nothing
    have names : NamesLevel s.level := by
      by_contra unnamed
      rw [ignored_of_unnamed unnamed] at nothing
      cases nothing
    refine ⟨names, fun m member => ?_⟩
    rw [ignored_of_names names, List.map_eq_nil_iff] at nothing
    by_contra unnamed
    have among := mem_unplaced_iff.mpr ⟨member, unnamed⟩
    rw [nothing] at among
    cases among
  · rintro ⟨names, all⟩
    rw [ignored_of_names names, List.map_eq_nil_iff, List.eq_nil_iff_forall_not_mem]
    exact fun m among => (mem_unplaced_iff.mp among).2 (all m (mem_unplaced_iff.mp among).1)

/-- Both lists can be filled in one pass. -/
theorem foldl_place (s : LoggingSettings) :
    s.modules.foldl place ([], s.ignoredFirst) = (s.moduleLevels, s.ignored) := by
  have run : ∀ (ms : Members String) (levels : List (String × Level)) (told : List String),
      ms.foldl place (levels, told) =
        (levels ++ ms.filterMap fun m => (Level.parse? m.2).map fun l => (m.1, l),
          told ++ (ms.filter fun m => !(Level.parse? m.2).isSome).map ignoredModule) := by
    intro ms
    induction ms with
    | nil => simp
    | cons m ms ih =>
      intro levels told
      cases read : Level.parse? m.2 with
      | none => simp [place, read, ih]
      | some l => simp [place, read, ih]
  rw [run, ignored_eq]
  rfl

/-! ## What is told -/

theorem toList_append_equals (front name value : String) :
    (front ++ name ++ "=" ++ value).toList =
      front.toList ++ (name.toList ++ '=' :: value.toList) := by
  simp

theorem toList_ignoredModule (m : String × String) :
    (ignoredModule m).toList = "logging.modules.".toList ++ (m.1.toList ++ '=' :: m.2.toList) :=
  toList_append_equals "logging.modules." m.1 m.2

/-- A text about the default level is none about a module. -/
theorem ignoredLevel_ne (value : String) (m : String × String) :
    ignoredLevel value ≠ ignoredModule m := by
  intro same
  have front : (ignoredLevel value).toList.take 9 = "logging.l".toList := by
    rw [ignoredLevel, String.toList_append, List.take_append_of_le_length (by decide)]
    decide
  have front' : (ignoredModule m).toList.take 9 = "logging.m".toList := by
    rw [toList_ignoredModule, List.take_append_of_le_length (by decide)]
    decide
  rw [same, front'] at front
  revert front
  decide

/-- Two entries of which the same is told are one, if the text of the one names a level and its
name has no equals sign. -/
theorem eq_of_text_eq (free : '=' ∉ m.1.toList) (names : NamesLevel m.2)
    (same : ignoredModule m = ignoredModule m') : m = m' := by
  obtain ⟨l, named⟩ := names
  have chars : m.1.toList ++ '=' :: m.2.toList = m'.1.toList ++ '=' :: m'.2.toList := by
    have texts := congrArg String.toList same
    rw [toList_ignoredModule, toList_ignoredModule] at texts
    exact List.append_cancel_left texts
  -- The text has no other equals sign, so it is parted at this one on either side.
  obtain ⟨name, -, value⟩ :=
    (List.append_cons_inj_of_notMem free named.equals_notMem).mp chars
  exact Prod.ext (String.toList_inj.mp name) (String.toList_inj.mp value)

theorem head?_ignored_iff :
    s.ignored.head? = some (ignoredLevel s.level) ↔ ¬ NamesLevel s.level := by
  constructor
  · intro first names
    rw [ignored_of_names names, List.head?_map, Option.map_eq_some_iff] at first
    obtain ⟨m, -, same⟩ := first
    exact ignoredLevel_ne s.level m same.symm
  · intro unnamed
    rw [ignored_of_unnamed unnamed]
    rfl

theorem mem_ignored_iff (free : '=' ∉ m.1.toList) (member : m ∈ s.modules) :
    ignoredModule m ∈ s.ignored ↔ ¬ NamesLevel m.2 := by
  rw [ignored_eq, List.mem_append]
  constructor
  · intro told names
    rcases told with first | later
    · by_cases level : NamesLevel s.level
      · rw [ignoredFirst_of_names level] at first
        cases first
      · rw [ignoredFirst_of_unnamed level] at first
        exact ignoredLevel_ne s.level m (List.mem_singleton.mp first).symm
    · obtain ⟨m', among, same⟩ := List.mem_map.mp later
      rw [eq_of_text_eq free names same.symm] at names
      exact (mem_unplaced_iff.mp among).2 names
  · intro unnamed
    exact .inr (List.mem_map_of_mem (mem_unplaced_iff.mpr ⟨member, unnamed⟩))

/-! ## Main result -/

/-- Where the levels in the settings of the log go. -/
structure Accounted (s : LoggingSettings) : Prop where
  /-- The entries fall into those that are placed and those that are told, which both keep their
  order: each entry is in one of the two, at one place. -/
  entries : ∃ placed told : Members String, Interleaved placed told s.modules ∧
    List.Forall₂ (fun m p => p.1 = m.1 ∧ p.2.NamedBy m.2) placed s.config.moduleLevels ∧
    (∀ m ∈ told, ¬ NamesLevel m.2) ∧
    (NamesLevel s.level →
      s.ignored = told.map fun m => "logging.modules." ++ m.1 ++ "=" ++ m.2) ∧
    (¬ NamesLevel s.level →
      s.ignored = ("logging.level=" ++ s.level) ::
        told.map fun m => "logging.modules." ++ m.1 ++ "=" ++ m.2)
  /-- As every name stands once, a module has the level that its own text names, and no other. -/
  placed : Members.Ordered s.modules → ∀ m ∈ s.modules, ∀ l,
    (m.1, l) ∈ s.config.moduleLevels ↔ l.NamedBy m.2
  /-- A module is told of if its text names no level, and only then, as far as its name can be
  read from what is told. -/
  told : ∀ m ∈ s.modules, '=' ∉ m.1.toList →
    ("logging.modules." ++ m.1 ++ "=" ++ m.2 ∈ s.ignored ↔ ¬ NamesLevel m.2)
  level : ∀ l : Level, l.NamedBy s.level → s.config.level = l
  fallback : ¬ NamesLevel s.level → s.config.level = .info
  first : s.ignored.head? = some ("logging.level=" ++ s.level) ↔ ¬ NamesLevel s.level
  format : s.config.format = s.format
  /-- Nothing is told if every text names a level, and only then. -/
  nothing : s.ignored = [] ↔ NamesLevel s.level ∧ ∀ m ∈ s.modules, NamesLevel m.2
  /-- One pass over the entries fills both lists. -/
  onePass : s.modules.foldl place ([], s.ignoredFirst) = (s.config.moduleLevels, s.ignored)

/-- **Every level in the settings of the log is placed or told of, once.** -/
theorem levels_accounted (s : LoggingSettings) : Accounted s := by
  constructor
  case entries =>
    exact ⟨s.placed, s.unplaced, s.interleaved, s.forall₂_placed,
      fun m member => (mem_unplaced_iff.mp member).2, ignored_of_names, ignored_of_unnamed⟩
  case placed => exact fun ordered m member l => mem_moduleLevels_iff_of_ordered ordered member
  case told => exact fun m member free => mem_ignored_iff free member
  case level =>
    intro l named
    rw [config, Level.parse?_eq_some_iff.mpr named]
    rfl
  case fallback =>
    intro unnamed
    rw [config, Level.parse?_eq_none_iff.mpr unnamed]
    rfl
  case first => exact head?_ignored_iff
  case format => rfl
  case nothing => exact ignored_eq_nil_iff
  case onePass => exact s.foldl_place

/-- Levels by name and by number, and texts that name none, the default level among them. -/
example :
    let s : LoggingSettings :=
      ⟨"loud", .text, [("a", "DEBUG"), ("b", "+07"), ("c", "+05"), ("d", " info")]⟩
    s.config = ⟨.info, [("a", .debug), ("c", .trace)], .text⟩ ∧
      s.ignored = ["logging.level=loud", "logging.modules.b=+07", "logging.modules.d= info"] := by
  decide

end StartSignal.LoggingSettings
