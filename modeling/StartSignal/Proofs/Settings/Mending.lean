/-
# StartSignal.Proofs.Settings.Mending -- what the environment mends

Loading reads the file, lets the environment override what the file says, and checks the
outcome last.  So an error of the file is the error under every environment.  The check
refuses a ceiling and a concurrency of zero, and no variable counts that holds one: a variable
that counts mends the value of the file, and none breaks it (`ceiling_override`,
`concurrency_override`).

Main result: `environment_mends`.
-/
import StartSignal.Proofs.Settings.Stated

namespace StartSignal

/-- Whether the file is at fault, and not what has become of its settings. -/
def SettingsError.blamesFile : SettingsError → Bool
  | .unreadable _ | .notJson _ | .notSettings _ => true
  | .invalid _ => false

namespace Setting

variable {α : Type} {t : Setting α} {lookup : Lookup}

/-- The variable of a setting counts. -/
def IsOverridden (t : Setting α) (lookup : Lookup) : Prop := ∃ x, t.Overridden lookup x

/-- A value that no variable gives is there only if it was, and no variable counts. -/
theorem Governed.eq_iff (governed : t.Governed) {bad : α}
    (never : ∀ x, t.Overridden lookup x → x ≠ bad) (s : Settings) :
    t.get (s.override lookup).1 = bad ↔ t.get s = bad ∧ ¬ t.IsOverridden lookup := by
  by_cases heard : t.IsOverridden lookup
  · obtain ⟨x, given⟩ := id heard
    simp [governed.of_overridden given, never x given, heard]
  · rw [governed.kept fun x given => heard ⟨x, given⟩]
    simp [heard]

end Setting

namespace Settings

open Override

variable {path : Path} {file : FileState} {lookup : Lookup} {s : Settings}

/-! ## The check -/

/-- Everything the check does: it looks at the ceiling before the concurrency. -/
theorem validate_cases (s : Settings) :
    (s.validate = .error .zeroCeiling ∧ s.listener.messageCeiling = 0) ∨
    (s.validate = .error .zeroConcurrency ∧ s.listener.messageCeiling ≠ 0 ∧
      s.dispatch.maxConcurrency = some 0) ∨
    (s.validate = .ok () ∧ s.listener.messageCeiling ≠ 0 ∧
      s.dispatch.maxConcurrency ≠ some 0) := by
  by_cases ceiling : s.listener.messageCeiling = 0
  · exact .inl ⟨by simp [validate, ceiling], ceiling⟩
  · by_cases concurrency : s.dispatch.maxConcurrency = some 0
    · exact .inr (.inl ⟨by simp [validate, ceiling, concurrency], ceiling, concurrency⟩)
    · exact .inr (.inr ⟨by simp [validate, ceiling, concurrency], ceiling, concurrency⟩)

theorem validate_eq_ok_iff : s.validate = .ok () ↔
    s.listener.messageCeiling ≠ 0 ∧ s.dispatch.maxConcurrency ≠ some 0 := by
  rcases s.validate_cases with ⟨same, ceiling⟩ | ⟨same, ceiling, concurrency⟩ |
    ⟨same, ceiling, concurrency⟩ <;> simp [*]

theorem validate_zeroCeiling_iff : s.validate = .error .zeroCeiling ↔
    s.listener.messageCeiling = 0 := by
  rcases s.validate_cases with ⟨same, ceiling⟩ | ⟨same, ceiling, -⟩ | ⟨same, ceiling, -⟩ <;>
    simp [*]

theorem validate_zeroConcurrency_iff : s.validate = .error .zeroConcurrency ↔
    s.listener.messageCeiling ≠ 0 ∧ s.dispatch.maxConcurrency = some 0 := by
  rcases s.validate_cases with ⟨same, ceiling⟩ | ⟨same, ceiling, concurrency⟩ |
    ⟨same, ceiling, concurrency⟩ <;> simp [*]

theorem ceiling_override (s : Settings) (lookup : Lookup) :
    (s.override lookup).1.listener.messageCeiling = 0 ↔
      s.listener.messageCeiling = 0 ∧ ¬ Setting.messageCeiling.IsOverridden lookup := by
  refine (Setting.governed ⟨_, Setting.messageCeiling⟩ (by simp [Setting.all])).eq_iff ?_ s
  rintro _ ⟨_, _, -, -, -, positive, -⟩ rfl
  cases positive

theorem concurrency_override (s : Settings) (lookup : Lookup) :
    (s.override lookup).1.dispatch.maxConcurrency = some 0 ↔
      s.dispatch.maxConcurrency = some 0 ∧ ¬ Setting.maxConcurrency.IsOverridden lookup := by
  refine (Setting.governed ⟨_, Setting.maxConcurrency⟩ (by simp [Setting.all])).eq_iff ?_ s
  rintro _ ⟨_, _, -, -, n, same, -, positive, -⟩ rfl
  cases same
  cases positive

/-! ## Loading -/

theorem readFile_blames {e : SettingsError} (failed : readFile file = .error e) :
    e.blamesFile = true := by
  cases file with
  | absent => cases failed
  | unreadable cause => cases failed; rfl
  | content bytes =>
    simp only [readFile] at failed
    split at failed
    · cases failed; rfl
    · split at failed <;> cases failed
      rfl

theorem ofFile_blames {e : SettingsError} (failed : ofFile file = .error e) :
    e.blamesFile = true := by
  unfold ofFile at failed
  split at failed
  · rename_i unread
    cases failed
    exact readFile_blames unread
  · split at failed <;> cases failed
    rfl
  · unfold overDefaults at failed
    split at failed <;> cases failed
    rfl

theorem load_eq (path : Path) (file : FileState) (lookup : Lookup) :
    (load path file lookup).1 = (ofFile file).bind fun s =>
      ((s.override lookup).1.validate.mapError .invalid).map fun _ => (s.override lookup).1 := by
  unfold load
  cases ofFile file with
  | error e => rfl
  | ok s =>
    cases valid : (s.override lookup).1.validate <;>
      simp [Except.bind, valid, Except.mapError, Except.map]

theorem load_blames_iff {e : SettingsError} (blames : e.blamesFile = true) :
    (load path file lookup).1 = .error e ↔ ofFile file = .error e := by
  rw [load_eq]
  cases ofFile file with
  | error e' => rfl
  | ok s =>
    cases valid : (s.override lookup).1.validate with
    | ok _ => simp [Except.bind, valid, Except.mapError, Except.map]
    | error i =>
      have other : SettingsError.invalid i ≠ e := by
        rintro rfl
        cases blames
      simp [Except.bind, valid, Except.mapError, Except.map, other]

theorem load_invalid_iff {i : InvalidSetting} :
    (load path file lookup).1 = .error (.invalid i) ↔
      ∃ s, ofFile file = .ok s ∧ (s.override lookup).1.validate = .error i := by
  rw [load_eq]
  cases made : ofFile file with
  | error e =>
    have other : e ≠ .invalid i := by
      rintro rfl
      cases ofFile_blames made
    simp [Except.bind, other]
  | ok s =>
    cases valid : (s.override lookup).1.validate <;>
      simp [Except.bind, valid, Except.mapError, Except.map]

theorem load_ok_iff {t : Settings} :
    (load path file lookup).1 = .ok t ↔
      ∃ s, ofFile file = .ok s ∧ (s.override lookup).1 = t ∧ t.validate = .ok () := by
  rw [load_eq]
  cases ofFile file with
  | error e => simp [Except.bind]
  | ok s =>
    cases valid : (s.override lookup).1.validate with
    | ok _ =>
      simp only [Except.bind, valid, Except.mapError, Except.map, Except.ok.injEq, exists_eq_left']
      exact ⟨fun same => ⟨same, same ▸ valid⟩, And.left⟩
    | error i =>
      simp only [Except.bind, valid, Except.mapError, Except.map, Except.ok.injEq, exists_eq_left',
        reduceCtorEq, false_iff, not_and]
      rintro rfl accepted
      rw [valid] at accepted
      cases accepted

/-! ## Zeros in the file -/

theorem States.ceiling_iff {v : Json} (states : States v s) :
    s.listener.messageCeiling = 0 ↔ Setting.messageCeiling.stated? v = some (.nat 0) := by
  refine (states.get_eq_iff (t := ⟨_, .messageCeiling⟩) (x := 0) (by simp [Setting.all])
    (by decide)).trans ?_
  constructor
  · rintro ⟨w, given, rfl⟩
    exact given
  · intro given
    exact ⟨_, given, rfl⟩

theorem States.concurrency_iff {v : Json} (states : States v s) :
    s.dispatch.maxConcurrency = some 0 ↔ Setting.maxConcurrency.stated? v = some (.nat 0) := by
  refine (states.get_eq_iff (t := ⟨_, .maxConcurrency⟩) (x := some 0) (by simp [Setting.all])
    (by decide)).trans ?_
  constructor
  · rintro ⟨w, given, rfl⟩
    exact given
  · intro given
    exact ⟨_, given, rfl⟩

/-- A loading that nothing in the file is to blame for finds settings in it. -/
theorem faultless_iff :
    (∀ e : SettingsError, e.blamesFile = true → (load path file lookup).1 ≠ .error e) ↔
      file = .absent ∨ ∃ v s, readFile file = .ok (some v) ∧ States v s := by
  constructor
  · intro faultless
    cases made : ofFile file with
    | ok s =>
      rcases ofFile_eq_ok_iff.mp made with ⟨rfl, -⟩ | ⟨v, read, states⟩
      · exact .inl rfl
      · exact .inr ⟨v, s, read, states⟩
    | error e =>
      have blames := ofFile_blames made
      exact absurd ((load_blames_iff blames).mpr made) (faultless e blames)
  · intro found e blames failed
    have made := (load_blames_iff blames).mp failed
    rcases found with rfl | ⟨v, s, read, states⟩
    · cases made
    · rw [ofFile_eq_ok_iff.mpr (.inr ⟨v, read, states⟩)] at made
      cases made

theorem zeroCeiling_iff : (load path file lookup).1 = .error (.invalid .zeroCeiling) ↔
    ∃ v s, readFile file = .ok (some v) ∧ States v s ∧
      Setting.messageCeiling.stated? v = some (.nat 0) ∧
      ¬ Setting.messageCeiling.IsOverridden lookup := by
  rw [load_invalid_iff]
  simp only [validate_zeroCeiling_iff, ceiling_override]
  constructor
  · rintro ⟨s, made, zero, silent⟩
    rcases ofFile_eq_ok_iff.mp made with ⟨-, rfl⟩ | ⟨v, read, states⟩
    · cases zero
    · exact ⟨v, s, read, states, states.ceiling_iff.mp zero, silent⟩
  · rintro ⟨v, s, read, states, given, silent⟩
    exact ⟨s, ofFile_eq_ok_iff.mpr (.inr ⟨v, read, states⟩), states.ceiling_iff.mpr given, silent⟩

theorem zeroConcurrency_iff : (load path file lookup).1 = .error (.invalid .zeroConcurrency) ↔
    ∃ v s, readFile file = .ok (some v) ∧ States v s ∧
      Setting.maxConcurrency.stated? v = some (.nat 0) ∧
      ¬ Setting.maxConcurrency.IsOverridden lookup ∧
      ¬ (Setting.messageCeiling.stated? v = some (.nat 0) ∧
        ¬ Setting.messageCeiling.IsOverridden lookup) := by
  rw [load_invalid_iff]
  simp only [validate_zeroConcurrency_iff, ne_eq, ceiling_override, concurrency_override]
  constructor
  · rintro ⟨s, made, before, zero, silent⟩
    rcases ofFile_eq_ok_iff.mp made with ⟨-, rfl⟩ | ⟨v, read, states⟩
    · cases zero
    · rw [states.ceiling_iff] at before
      exact ⟨v, s, read, states, states.concurrency_iff.mp zero, silent, before⟩
  · rintro ⟨v, s, read, states, given, silent, before⟩
    rw [← states.ceiling_iff] at before
    exact ⟨s, ofFile_eq_ok_iff.mpr (.inr ⟨v, read, states⟩), before,
      states.concurrency_iff.mpr given, silent⟩

/-! ## Main result -/

def noVariables : Lookup := fun _ => none

/-- What an environment does to the loading of a file. -/
structure Mends (path : Path) (file : FileState) (lookup : Lookup) : Prop where
  /-- An error of the file stays the error. -/
  fault : ∀ e : SettingsError, e.blamesFile = true →
    ((load path file lookup).1 = .error e ↔ (load path file noVariables).1 = .error e)
  /-- There is none when the file is not there, or holds JSON that states settings. -/
  faultless : (∀ e : SettingsError, e.blamesFile = true → (load path file lookup).1 ≠ .error e) ↔
    file = .absent ∨ ∃ v s, readFile file = .ok (some v) ∧ States v s
  /-- What can be loaded without the environment can be loaded. -/
  loads : ∀ s, (load path file noVariables).1 = .ok s → ∃ t, (load path file lookup).1 = .ok t
  /-- So can a file that is not there. -/
  absent : file = .absent → ∃ t, (load path file lookup).1 = .ok t
  /-- Settings with a ceiling of zero in the file are refused unless a variable gives another. -/
  ceiling : (load path file lookup).1 = .error (.invalid .zeroCeiling) ↔
    ∃ v s, readFile file = .ok (some v) ∧ States v s ∧
      Setting.messageCeiling.stated? v = some (.nat 0) ∧
      ¬ Setting.messageCeiling.IsOverridden lookup
  /-- So are settings with a concurrency of zero, where the ceiling is not refused before it. -/
  concurrency : (load path file lookup).1 = .error (.invalid .zeroConcurrency) ↔
    ∃ v s, readFile file = .ok (some v) ∧ States v s ∧
      Setting.maxConcurrency.stated? v = some (.nat 0) ∧
      ¬ Setting.maxConcurrency.IsOverridden lookup ∧
      ¬ (Setting.messageCeiling.stated? v = some (.nat 0) ∧
        ¬ Setting.messageCeiling.IsOverridden lookup)
  /-- What is loaded is of use to both sides. -/
  useful : ∀ t, (load path file lookup).1 = .ok t →
    0 < t.listener.messageCeiling ∧ ∀ n, t.dispatch.maxConcurrency = some n → 0 < n

/-- **No environment keeps a file from being loaded that can be loaded without it.**  A variable
that counts makes up for the zero in its place. -/
theorem environment_mends (path : Path) (file : FileState) (lookup : Lookup) :
    Mends path file lookup := by
  have mended : ∀ s : Settings, (s.override noVariables).1.validate = .ok () →
      (s.override lookup).1.validate = .ok () := by
    intro s
    simp only [validate_eq_ok_iff, ne_eq, ceiling_override, concurrency_override]
    have silent : ∀ {α : Type} (t : Setting α), ¬ t.IsOverridden noVariables := by
      rintro α t ⟨_, _, _, -, found, -⟩
      cases found
    rintro ⟨ceiling, concurrency⟩
    exact ⟨fun zero => ceiling ⟨zero.1, silent _⟩, fun zero => concurrency ⟨zero.1, silent _⟩⟩
  have loads : ∀ s, (load path file noVariables).1 = .ok s →
      ∃ t, (load path file lookup).1 = .ok t := by
    intro s loaded
    obtain ⟨old, made, rfl, valid⟩ := load_ok_iff.mp loaded
    exact ⟨_, load_ok_iff.mpr ⟨old, made, rfl, mended old valid⟩⟩
  constructor
  case fault =>
    intro e blames
    rw [load_blames_iff blames, load_blames_iff blames]
  case faultless => exact faultless_iff
  case loads => exact loads
  case absent =>
    rintro rfl
    exact loads standard rfl
  case ceiling => exact zeroCeiling_iff
  case concurrency => exact zeroConcurrency_iff
  case useful =>
    intro t loaded
    obtain ⟨_, -, -, valid⟩ := load_ok_iff.mp loaded
    obtain ⟨ceiling, concurrency⟩ := validate_eq_ok_iff.mp valid
    refine ⟨UInt32.pos_iff_ne_zero.mpr ceiling, fun n set => UInt64.pos_iff_ne_zero.mpr ?_⟩
    rintro rfl
    exact concurrency set

/-- The bytes of the file `{"listener":{"messageCeiling":0}}`. -/
def zeroFile : FileState :=
  .content [123, 34, 108, 105, 115, 116, 101, 110, 101, 114, 34, 58, 123, 34, 109, 101, 115, 115,
    97, 103, 101, 67, 101, 105, 108, 105, 110, 103, 34, 58, 48, 125, 125]

def zeroJson : Json := .object [("listener", .object [("messageCeiling", .nat 0)])]

def threeLookup : Lookup := fun name =>
  if name = "STARTGATE_MESSAGE_CEILING" then some "3" else none

/-- A ceiling of zero in the file is refused, and mended by a variable. -/
theorem environment_mends_zeroCeiling :
    (load ⟨[]⟩ zeroFile noVariables).1 = .error (.invalid .zeroCeiling) ∧
      ∃ t, (load ⟨[]⟩ zeroFile threeLookup).1 = .ok t ∧ t.listener.messageCeiling = 3 := by
  have read : readFile zeroFile = .ok (some zeroJson) := rfl
  have states : States zeroJson
      { standard with listener := { ListenerSettings.standard with messageCeiling := 0 } } := by
    obtain ⟨-, ordered, -⟩ := content_of_readFile read
    exact (overDefaults_eq_ok_iff ordered).mp rfl
  have silent : ¬ Setting.messageCeiling.IsOverridden noVariables := by
    rintro ⟨_, _, _, -, found, -⟩
    cases found
  constructor
  · exact (environment_mends ⟨[]⟩ zeroFile noVariables).ceiling.mpr
      ⟨_, _, read, states, rfl, silent⟩
  · exact ⟨_, rfl, rfl⟩

end Settings

end StartSignal
