/-
# StartSignal.Proofs.Settings.Setting -- the ten settings one by one

A `Setting` says where one setting stands in a file and which value stands for what there,
which variable overrides it and which texts of the variable count, and where it is kept.  The
file's value is decoded to what it stands for (`Setting.decode_eq_ok_iff`).  The settings are
what the ten of them are (`Settings.eq_of_all`).
-/
import StartSignal.Proofs.Settings.Value
import StartSignal.Proofs.Text.Numeral
import StartSignal.Settings.Load

namespace StartSignal

/-- The value of a setting in a file, if the file says anything about it.  A null says
nothing. -/
def Json.given? (file : Json) (part name : String) : Option Json :=
  (file.at? [part, name]).filter fun v => !v.isNull

/-- A number inside a range, between blanks. -/
def ReadsNumber (low high : Nat) (raw : String) (n : Nat) : Prop :=
  Text.Reads raw.toList n ∧ low ≤ n ∧ n ≤ high

/-- The name of a format, in any mix of ASCII cases. -/
def ReadsFormat (raw : String) : Log.Format → Prop
  | .json => Text.lower raw = "json"
  | .text => Text.lower raw = "text" ∨ Text.lower raw = "pretty"

theorem ReadsNumber.ne_empty {low high n : Nat} {raw : String}
    (reads : ReadsNumber low high raw n) : raw ≠ "" := by
  rintro rfl
  cases Text.unsigned?_trim_eq_some_iff.mpr reads.1

theorem ReadsFormat.ne_empty {raw : String} {f : Log.Format} (reads : ReadsFormat raw f) :
    raw ≠ "" := by
  rintro rfl
  cases f <;> simp [ReadsFormat, Text.lower] at reads

/-- One of the settings. -/
structure Setting (α : Type) where
  /-- The section of a file it stands in. -/
  part : String
  name : String
  get : Settings → α
  put : α → Settings → Settings
  decode : Json → Except DataError α
  /-- The values of a file that stand for a value of the setting. -/
  holds : Json → α → Prop
  /-- The variable that overrides it. -/
  override : Option String
  /-- The value of a text of the variable, if that counts. -/
  reads : String → α → Prop
  put_get : ∀ s, put (get s) s = s

namespace Setting

def listenHost : Setting String where
  part := "listener"
  name := "host"
  get s := s.listener.host
  put x s := { s with listener := { s.listener with host := x } }
  decode := Json.decodeText
  holds v x := v = .string x
  override := some Override.listenHost
  reads raw x := raw = x ∧ x ≠ ""
  put_get _ := rfl

def listenPort : Setting UInt16 where
  part := "listener"
  name := "port"
  get s := s.listener.port
  put x s := { s with listener := { s.listener with port := x } }
  decode := Json.decodeUInt16
  holds v x := v = .nat x.toNat
  override := some Override.listenPort
  reads raw x := ReadsNumber 1 65535 raw x.toNat
  put_get _ := rfl

def idleTimeoutSecs : Setting UInt64 where
  part := "listener"
  name := "idleTimeoutSecs"
  get s := s.listener.idleTimeoutSecs
  put x s := { s with listener := { s.listener with idleTimeoutSecs := x } }
  decode := Json.decodeUInt64
  holds v x := v = .nat x.toNat
  override := some Override.idleTimeoutSecs
  reads raw x := ReadsNumber 0 86400 raw x.toNat
  put_get _ := rfl

def messageCeiling : Setting UInt32 where
  part := "listener"
  name := "messageCeiling"
  get s := s.listener.messageCeiling
  put x s := { s with listener := { s.listener with messageCeiling := x } }
  decode := Json.decodeUInt32
  holds v x := v = .nat x.toNat
  override := some Override.messageCeiling
  reads raw x := ReadsNumber 1 1000 raw x.toNat
  put_get _ := rfl

def dispatchPort : Setting UInt16 where
  part := "dispatch"
  name := "port"
  get s := s.dispatch.port
  put x s := { s with dispatch := { s.dispatch with port := x } }
  decode := Json.decodeUInt16
  holds v x := v = .nat x.toNat
  override := some Override.dispatchPort
  reads raw x := ReadsNumber 1 65535 raw x.toNat
  put_get _ := rfl

def maxConcurrency : Setting (Option UInt64) where
  part := "dispatch"
  name := "maxConcurrency"
  get s := s.dispatch.maxConcurrency
  put x s := { s with dispatch := { s.dispatch with maxConcurrency := x } }
  decode := Json.decodeCount
  holds := Json.HoldsCount
  override := some Override.dispatchConcurrency
  reads raw x := ∃ n, x = some n ∧ ReadsNumber 1 4096 raw n.toNat
  put_get _ := rfl

def connectTimeoutMs : Setting UInt64 where
  part := "dispatch"
  name := "connectTimeoutMs"
  get s := s.dispatch.connectTimeoutMs
  put x s := { s with dispatch := { s.dispatch with connectTimeoutMs := x } }
  decode := Json.decodeUInt64
  holds v x := v = .nat x.toNat
  override := some Override.connectTimeoutMs
  reads raw x := ReadsNumber 1 600000 raw x.toNat
  put_get _ := rfl

def logLevel : Setting String where
  part := "logging"
  name := "level"
  get s := s.logging.level
  put x s := { s with logging := { s.logging with level := x } }
  decode := Json.decodeText
  holds v x := v = .string x
  override := some Override.logLevel
  reads raw x := raw = x ∧ x ≠ ""
  put_get _ := rfl

def logFormat : Setting Log.Format where
  part := "logging"
  name := "format"
  get s := s.logging.format
  put x s := { s with logging := { s.logging with format := x } }
  decode := Json.decodeFormat
  holds := Json.HoldsFormat
  override := some Override.logFormat
  reads := ReadsFormat
  put_get _ := rfl

def logModules : Setting (Members String) where
  part := "logging"
  name := "modules"
  get s := s.logging.modules
  put x s := { s with logging := { s.logging with modules := x } }
  decode := Json.decodeTable
  holds := Json.HoldsTable
  override := none
  reads _ _ := False
  put_get _ := rfl

def all : List (Σ α, Setting α) :=
  [⟨_, listenHost⟩, ⟨_, listenPort⟩, ⟨_, idleTimeoutSecs⟩, ⟨_, messageCeiling⟩,
   ⟨_, dispatchPort⟩, ⟨_, maxConcurrency⟩, ⟨_, connectTimeoutMs⟩,
   ⟨_, logLevel⟩, ⟨_, logFormat⟩, ⟨_, logModules⟩]

variable {α : Type}

/-- A setting is decoded from the values that stand for it, and from no others. -/
theorem decode_eq_ok_iff : ∀ t ∈ all, ∀ v x, t.2.decode v = .ok x ↔ t.2.holds v x := by
  simp only [all, List.forall_mem_cons]
  exact ⟨fun _ _ => Json.decodeText_eq_ok_iff, fun _ _ => Json.decodeUInt16_eq_ok_iff,
    fun _ _ => Json.decodeUInt64_eq_ok_iff, fun _ _ => Json.decodeUInt32_eq_ok_iff,
    fun _ _ => Json.decodeUInt16_eq_ok_iff, fun _ _ => Json.decodeCount_eq_ok_iff,
    fun _ _ => Json.decodeUInt64_eq_ok_iff, fun _ _ => Json.decodeText_eq_ok_iff,
    fun _ _ => Json.decodeFormat_eq_ok_iff, fun _ _ => Json.decodeTable_eq_ok_iff,
    List.forall_mem_nil _⟩

/-- What a file makes of a setting: the value it gives it, or the default. -/
def ofFile (t : Setting α) (file : Json) : Except DataError α :=
  match file.given? t.part t.name with
  | some v => t.decode v
  | none => .ok (t.get .standard)

/-- The variable of a setting has a text that counts. -/
def Overridden (t : Setting α) (lookup : Lookup) (x : α) : Prop :=
  ∃ name raw, t.override = some name ∧ lookup name = some raw ∧ t.reads raw x

theorem overridden_iff {t : Setting α} {name : String} (own : t.override = some name)
    {lookup : Lookup} {x : α} :
    t.Overridden lookup x ↔ ∃ raw, lookup name = some raw ∧ t.reads raw x := by
  simp [Overridden, own]

theorem overridden_congr {t : Setting α} {lookup lookup' : Lookup}
    (same : ∀ name, t.override = some name → lookup' name = lookup name) (x : α) :
    t.Overridden lookup' x ↔ t.Overridden lookup x := by
  constructor
  · rintro ⟨name, raw, own, found, reads⟩
    exact ⟨name, raw, own, (same name own).symm.trans found, reads⟩
  · rintro ⟨name, raw, own, found, reads⟩
    exact ⟨name, raw, own, (same name own).trans found, reads⟩

/-- No setting reads an empty text. -/
theorem ne_empty_of_reads : ∀ t ∈ all, ∀ raw x, t.2.reads raw x → raw ≠ "" := by
  simp only [all, List.forall_mem_cons]
  refine ⟨?_, ?_, ?_, ?_, ?_, ?_, ?_, ?_, ?_, ?_, List.forall_mem_nil _⟩
  · rintro _ x ⟨rfl, stated⟩
    exact stated
  · exact fun _ _ reads => reads.ne_empty
  · exact fun _ _ reads => reads.ne_empty
  · exact fun _ _ reads => reads.ne_empty
  · exact fun _ _ reads => reads.ne_empty
  · rintro _ x ⟨n, -, reads⟩
    exact reads.ne_empty
  · exact fun _ _ reads => reads.ne_empty
  · rintro _ x ⟨rfl, stated⟩
    exact stated
  · exact fun _ _ reads => reads.ne_empty
  · exact fun _ _ never => never.elim

/-- A setting has the value of its variable if that counts, else what the file's value for it
stands for, else its default. -/
structure Layered (t : Setting α) (file : Json) (lookup : Lookup) (s : Settings) : Prop where
  fromVariable : ∀ x, t.Overridden lookup x → t.get s = x
  fromFile : (∀ x, ¬ t.Overridden lookup x) → ∀ v, file.given? t.part t.name = some v →
    t.holds v (t.get s)
  fromStandard : (∀ x, ¬ t.Overridden lookup x) → file.given? t.part t.name = none →
    t.get s = t.get .standard

end Setting

/-- The settings are what each of them is. -/
theorem Settings.eq_of_all {s s' : Settings}
    (same : ∀ t ∈ Setting.all, t.2.get s = t.2.get s') : s = s' := by
  simp only [Setting.all, List.forall_mem_cons] at same
  obtain ⟨host, port, idle, ceiling, dispatchPort, concurrency, timeout, level, format, modules,
    -⟩ := same
  obtain ⟨⟨_, _, _, _⟩, ⟨_, _, _⟩, ⟨_, _, _⟩⟩ := s
  obtain ⟨⟨_, _, _, _⟩, ⟨_, _, _⟩, ⟨_, _, _⟩⟩ := s'
  cases host; cases port; cases idle; cases ceiling; cases dispatchPort
  cases concurrency; cases timeout; cases level; cases format; cases modules
  rfl

end StartSignal
