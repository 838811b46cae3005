/-
# StartSignal.Proofs.Settings.Layers -- the environment over the file over the defaults

A file whose sections are objects makes of each setting something that does not depend on
the others (`decode_merge`), and so does the environment (`Setting.governed`).  Put together,
every setting has the value of its own variable, else that of its own member of the file,
else its default (`Setting.Layered`).  Nothing else in the file or in the environment is
noticed, whether settings come of it or an error.

Main result: `load_layers`.
-/
import StartSignal.Proofs.Settings.File
import StartSignal.Proofs.Settings.Variables

namespace StartSignal

namespace Setting

variable {α : Type} {t : Setting α} {file : Json} {lookup : Lookup} {s : Settings}

/-- A setting that has the value that its variable gives it, or else what the file makes of
it, is layered. -/
theorem layered_of {given : Option α} {old : α} (made : t.ofFile file = .ok old)
    (decoded : ∀ v x, t.decode v = .ok x ↔ t.holds v x)
    (counts : ∀ x, given = some x ↔ t.Overridden lookup x) (value : t.get s = given.getD old) :
    t.Layered file lookup s := by
  cases given with
  | some x =>
    have given := (counts x).mp rfl
    refine ⟨fun y given' => ?_, fun silent => absurd given (silent x),
      fun silent => absurd given (silent x)⟩
    rw [value, (counts y).mpr given', Option.getD_some]
  | none =>
    rw [Option.getD_none] at value
    refine ⟨fun y given => ?_, fun _ v said => ?_, fun _ said => ?_⟩
    · cases (counts y).mpr given
    · rw [ofFile, said] at made
      rw [value]
      exact (decoded v old).mp made
    · rw [ofFile, said] at made
      rw [value]
      exact (Except.ok.inj made).symm

end Setting

namespace Settings

open Override

variable {file : Json} {lookup : Lookup} {s : Settings}

/-- Every setting is what the file makes of it. -/
theorem ofParts_ok (ok : ofParts file = .ok s) :
    ∀ t ∈ Setting.all, t.2.ofFile file = .ok (t.2.get s) := by
  obtain ⟨_, timeout, ok⟩ := bind_eq_ok ok
  obtain ⟨_, concurrency, ok⟩ := bind_eq_ok ok
  obtain ⟨_, dispatchPort, ok⟩ := bind_eq_ok ok
  obtain ⟨_, host, ok⟩ := bind_eq_ok ok
  obtain ⟨_, idle, ok⟩ := bind_eq_ok ok
  obtain ⟨_, ceiling, ok⟩ := bind_eq_ok ok
  obtain ⟨_, port, ok⟩ := bind_eq_ok ok
  obtain ⟨_, format, ok⟩ := bind_eq_ok ok
  obtain ⟨_, level, ok⟩ := bind_eq_ok ok
  obtain ⟨_, modules, ok⟩ := bind_eq_ok ok
  cases ok
  simp only [Setting.all, List.forall_mem_cons]
  exact ⟨host, port, idle, ceiling, dispatchPort, concurrency, timeout, level, format, modules,
    List.forall_mem_nil _⟩

/-- The environment leaves every setting layered. -/
theorem layered_override (made : ∀ t ∈ Setting.all, t.2.ofFile file = .ok (t.2.get s)) :
    ∀ t ∈ Setting.all, t.2.Layered file lookup (s.override lookup).1 := by
  intro t member
  obtain ⟨given, counts, value⟩ := Setting.governed t member
  exact Setting.layered_of (made t member) (Setting.decode_eq_ok_iff t member) (counts lookup)
    (value lookup s)

/-! ## Loading -/

theorem content_of_readFile {file : FileState} {v : Json} (read : readFile file = .ok (some v)) :
    (∃ bytes, file = .content bytes) ∧ v.Ordered ∧ ofFile file = overDefaults v := by
  cases file with
  | absent => cases read
  | unreadable e => cases read
  | content bytes =>
    refine ⟨⟨bytes, rfl⟩, ?_, by rw [ofFile, read]⟩
    simp only [readFile] at read
    split at read
    · cases read
    · split at read
      · rename_i parsed
        cases read
        exact Json.ordered_of_parseChars parsed
      · cases read

theorem overDefaults_eq {v : Json} (ordered : v.Ordered) (sectioned : v.Sectioned) :
    overDefaults v = (ofParts v).mapError .notSettings := by
  rw [overDefaults, decode_merge ordered sectioned]
  cases ofParts v <;> rfl

theorem ofParts_congr {v w : Json}
    (same : ∀ t ∈ Setting.all, w.given? t.2.part t.2.name = v.given? t.2.part t.2.name) :
    ofParts w = ofParts v := by
  have made : ∀ t ∈ Setting.all, t.2.ofFile w = t.2.ofFile v := by
    intro t member
    rw [Setting.ofFile, same t member, Setting.ofFile]
  simp only [Setting.all, List.forall_mem_cons] at made
  obtain ⟨host, port, idle, ceiling, dispatchPort, concurrency, timeout, level, format, modules,
    -⟩ := made
  simp only [ofParts, host, port, idle, ceiling, dispatchPort, concurrency, timeout, level, format,
    modules]

/-- What is loaded comes from the file and the environment. -/
theorem ofFile_of_load {path : Path} {file : FileState} {log : List Log.Record}
    (loaded : load path file lookup = (.ok s, log)) :
    ∃ old, ofFile file = .ok old ∧ s = (old.override lookup).1 := by
  unfold load at loaded
  cases made : ofFile file with
  | error e =>
    rw [made] at loaded
    cases loaded
  | ok old =>
    rw [made] at loaded
    dsimp only at loaded
    split at loaded
    · cases loaded
    · cases loaded
      exact ⟨old, rfl, rfl⟩

/-! ## Main result -/

/-- **Every setting that is loaded has the value of its variable, else the value that the file
gives it, else its default.**  The file is an object with objects for sections, or without them.
No other variable and no other member of the file makes any difference to what is loaded, be it
settings or an error. -/
theorem load_layers {path : Path} {file : FileState} {lookup : Lookup} {v : Json}
    (read : readFile file = .ok (some v)) (sectioned : v.Sectioned) :
    (∀ s log, load path file lookup = (.ok s, log) →
      ∀ t ∈ Setting.all, t.2.Layered v lookup s) ∧
    (∀ lookup', (∀ name ∈ Override.names, lookup' name = lookup name) →
      load path file lookup' = load path file lookup) ∧
    (∀ file' v', readFile file' = .ok (some v') → v'.Sectioned →
      (∀ t ∈ Setting.all, v'.given? t.2.part t.2.name = v.given? t.2.part t.2.name) →
      load path file' lookup = load path file lookup) := by
  obtain ⟨⟨bytes, rfl⟩, ordered, made⟩ := content_of_readFile read
  rw [overDefaults_eq ordered sectioned] at made
  refine ⟨?_, ?_, ?_⟩
  case refine_1 =>
    intro s log loaded
    obtain ⟨old, fromFile, rfl⟩ := ofFile_of_load loaded
    rw [made] at fromFile
    cases parts : ofParts v with
    | error e => rw [parts] at fromFile; cases fromFile
    | ok _ =>
      rw [parts] at fromFile
      cases fromFile
      exact layered_override (ofParts_ok parts)
  case refine_2 =>
    intro lookup' same
    simp only [load, override_congr same]
  case refine_3 =>
    intro file' v' read' sectioned' same
    obtain ⟨⟨bytes', rfl⟩, ordered', made'⟩ := content_of_readFile read'
    rw [overDefaults_eq ordered' sectioned', ofParts_congr same] at made'
    have records : fileRecord path (.content bytes') = fileRecord path (.content bytes) := rfl
    simp only [load, made, made', records]

/-- The bytes of a file with a value of every kind: the lines
`{"dispatch":{"maxConcurrency":8},"listener":{"host":"::1","port":7},` and
`"logging":{"format":"text","modules":{"net":"warn"}}}` as one. -/
def mixedFile : FileState :=
  .content [123, 34, 100, 105, 115, 112, 97, 116, 99, 104, 34, 58, 123, 34, 109, 97, 120, 67, 111,
    110, 99, 117, 114, 114, 101, 110, 99, 121, 34, 58, 56, 125, 44, 34, 108, 105, 115, 116, 101,
    110, 101, 114, 34, 58, 123, 34, 104, 111, 115, 116, 34, 58, 34, 58, 58, 49, 34, 44, 34, 112,
    111, 114, 116, 34, 58, 55, 125, 44, 34, 108, 111, 103, 103, 105, 110, 103, 34, 58, 123, 34,
    102, 111, 114, 109, 97, 116, 34, 58, 34, 116, 101, 120, 116, 34, 44, 34, 109, 111, 100, 117,
    108, 101, 115, 34, 58, 123, 34, 110, 101, 116, 34, 58, 34, 119, 97, 114, 110, 34, 125, 125,
    125]

def mixedJson : Json :=
  .object [
    ("dispatch", .object [("maxConcurrency", .nat 8)]),
    ("listener", .object [("host", .string "::1"), ("port", .nat 7)]),
    ("logging", .object [("format", .string "text"),
      ("modules", .object [("net", .string "warn")])])]

def portLookup : Lookup := fun name =>
  if name = Override.listenPort then some " +6000 " else none

def mixedSettings : Settings where
  listener := { ListenerSettings.standard with host := "::1", port := 6000 }
  dispatch := { DispatchSettings.standard with maxConcurrency := some 8 }
  logging := ⟨"info", .text, [("net", "warn")]⟩

theorem sectioned_mixed : mixedJson.Sectioned := by
  refine ⟨_, rfl, fun part member v found => .inr ?_⟩
  simp only [List.mem_cons, List.not_mem_nil, or_false] at member
  rcases member with rfl | rfl | rfl <;> exact ⟨_, (Option.some.inj found).symm⟩

set_option maxRecDepth 2000 in
/-- The port comes from its variable, which beats the file, and one setting of each kind from
the file; the others are at their defaults. -/
theorem load_layers_mixed :
    (load ⟨[]⟩ mixedFile portLookup).1 = .ok mixedSettings ∧
      ∀ t ∈ Setting.all, t.2.Layered mixedJson portLookup mixedSettings := by
  have loaded : load ⟨[]⟩ mixedFile portLookup =
      (.ok mixedSettings, [fileRecord ⟨[]⟩ mixedFile]) := rfl
  have read : readFile mixedFile = .ok (some mixedJson) := rfl
  exact ⟨congrArg Prod.fst loaded, (load_layers read sectioned_mixed).1 _ _ loaded⟩

end Settings

end StartSignal
