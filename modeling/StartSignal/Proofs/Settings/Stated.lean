/-
# StartSignal.Proofs.Settings.Stated -- what a file states

A file is a record of three sections, and a section is a record of settings
(`Json.IsRecord`).  What the file states of a setting is the value in its place
(`Setting.stated?`).  It states settings in full when each of them is what its value stands
for, or is at its default where there is none (`Settings.States`).

To decode a file over the defaults is to find the settings that it states, whatever else it
holds; there are none where a value stands for nothing.

Main result: `overDefaults_eq_ok_iff`.
-/
import StartSignal.Proofs.Json.Record
import StartSignal.Proofs.Settings.Layers

namespace StartSignal

open Json

/-- The sections in the order in which they are declared. -/
def sectionNames : List String := ["listener", "dispatch", "logging"]

namespace Setting

variable {α : Type}

/-- The settings of a section in the order in which they are declared. -/
def namesIn (part : String) : List String :=
  (all.filter fun t => t.2.part = part).map fun t => t.2.name

/-- The value that a file has in the place of a setting. -/
def stated? (t : Setting α) (file : Json) : Option Json :=
  (file.said? sectionNames true t.part).bind fun v =>
    v.said? (namesIn t.part) file.isObject t.name

/-- A setting as a slot of all settings. -/
def slot (t : Setting α) : Slot Settings := ⟨t.name, t.decode, t.get⟩

end Setting

namespace Settings

/-- A file is a record of records, and gives every setting what its value there stands for,
or else leaves it at its default. -/
structure States (file : Json) (s : Settings) : Prop where
  root : file.IsRecord sectionNames
  sections : ∀ part ∈ sectionNames, ∀ v, file.said? sectionNames true part = some v →
    v.IsRecord (Setting.namesIn part)
  stated : ∀ t ∈ Setting.all, ∀ v, t.2.stated? file = some v → t.2.holds v (t.2.get s)
  silent : ∀ t ∈ Setting.all, t.2.stated? file = none → t.2.get s = t.2.get .standard

end Settings

/-! ## The sections as records -/

def ListenerSettings.fields : List (Slot ListenerSettings) :=
  [⟨"host", decodeText, ListenerSettings.host⟩, ⟨"port", decodeUInt16, ListenerSettings.port⟩,
   ⟨"idleTimeoutSecs", decodeUInt64, ListenerSettings.idleTimeoutSecs⟩,
   ⟨"messageCeiling", decodeUInt32, ListenerSettings.messageCeiling⟩]

def DispatchSettings.fields : List (Slot DispatchSettings) :=
  [⟨"port", decodeUInt16, DispatchSettings.port⟩,
   ⟨"maxConcurrency", decodeCount, DispatchSettings.maxConcurrency⟩,
   ⟨"connectTimeoutMs", decodeUInt64, DispatchSettings.connectTimeoutMs⟩]

def LoggingSettings.fields : List (Slot LoggingSettings) :=
  [⟨"level", decodeText, LoggingSettings.level⟩, ⟨"format", decodeFormat, LoggingSettings.format⟩,
   ⟨"modules", decodeTable, LoggingSettings.modules⟩]

theorem ListenerSettings.decodes : Decodes set fields where
  step s m s' := by
    obtain ⟨name, v⟩ := m
    cases s
    cases s'
    simp only [set]
    split_ifs <;> simp_all [fields, Slot.among, Members.readOr, Members.get?, map_eq_ok_iff,
      and_left_comm]
  same s s' each := by
    cases s
    cases s'
    simp_all [fields]
  choose P each := by
    simp only [fields, List.forall_mem_cons] at each ⊢
    obtain ⟨⟨host, a⟩, ⟨port, b⟩, ⟨idle, c⟩, ⟨ceiling, d⟩, -⟩ := each
    exact ⟨⟨host, port, idle, ceiling⟩, a, b, c, d, List.forall_mem_nil _⟩

def ListenerSettings.layout : Layout ListenerSettings where
  title := "ListenerSettings"
  names := Setting.namesIn "listener"
  set := set
  standard := standard
  defaults := defaults
  fields := fields
  once := by decide
  ordered := Settings.ordered_defaults.2.2.1
  leaves := by simp [defaults, nat]
  defaulted := by
    simp only [fields, List.forall_mem_cons]
    exact ⟨rfl, rfl, rfl, rfl, List.forall_mem_nil _⟩
  decodes := decodes

theorem DispatchSettings.decodes : Decodes set fields where
  step s m s' := by
    obtain ⟨name, v⟩ := m
    cases s
    cases s'
    simp only [set]
    split_ifs <;> simp_all [fields, Slot.among, Members.readOr, Members.get?, map_eq_ok_iff,
      and_left_comm]
  same s s' each := by
    cases s
    cases s'
    simp_all [fields]
  choose P each := by
    simp only [fields, List.forall_mem_cons] at each ⊢
    obtain ⟨⟨port, a⟩, ⟨concurrency, b⟩, ⟨timeout, c⟩, -⟩ := each
    exact ⟨⟨port, concurrency, timeout⟩, a, b, c, List.forall_mem_nil _⟩

def DispatchSettings.layout : Layout DispatchSettings where
  title := "DispatchSettings"
  names := Setting.namesIn "dispatch"
  set := set
  standard := standard
  defaults := defaults
  fields := fields
  once := by decide
  ordered := Settings.ordered_defaults.2.1
  leaves := by simp [defaults, nat]
  defaulted := by
    simp only [fields, List.forall_mem_cons]
    exact ⟨rfl, rfl, rfl, List.forall_mem_nil _⟩
  decodes := decodes

theorem LoggingSettings.decodes : Decodes set fields where
  step s m s' := by
    obtain ⟨name, v⟩ := m
    cases s
    cases s'
    simp only [set]
    split_ifs <;> simp_all [fields, Slot.among, Members.readOr, Members.get?, map_eq_ok_iff,
      and_left_comm]
  same s s' each := by
    cases s
    cases s'
    simp_all [fields]
  choose P each := by
    simp only [fields, List.forall_mem_cons] at each ⊢
    obtain ⟨⟨level, a⟩, ⟨format, b⟩, ⟨modules, c⟩, -⟩ := each
    exact ⟨⟨level, format, modules⟩, a, b, c, List.forall_mem_nil _⟩

def LoggingSettings.layout : Layout LoggingSettings where
  title := "LoggingSettings"
  names := Setting.namesIn "logging"
  set := set
  standard := standard
  defaults := defaults
  fields := fields
  once := by decide
  ordered := Settings.ordered_defaults.2.2.2
  leaves := by simp [defaults]
  defaulted := by
    simp only [fields, List.forall_mem_cons]
    exact ⟨rfl, rfl, rfl, List.forall_mem_nil _⟩
  decodes := decodes

/-- The sections, laid over their defaults or not. -/
def Settings.slots (overlaid : Bool) : List (Slot Settings) :=
  [⟨"listener", fun v => ListenerSettings.decode (v.laid overlaid ListenerSettings.defaults),
    Settings.listener⟩,
   ⟨"dispatch", fun v => DispatchSettings.decode (v.laid overlaid DispatchSettings.defaults),
    Settings.dispatch⟩,
   ⟨"logging", fun v => LoggingSettings.decode (v.laid overlaid LoggingSettings.defaults),
    Settings.logging⟩]

theorem Settings.decodes : Decodes set (slots false) where
  step s m s' := by
    obtain ⟨name, v⟩ := m
    cases s
    cases s'
    simp only [set]
    split_ifs <;> simp_all [slots, laid, Slot.among, Members.readOr, Members.get?, map_eq_ok_iff,
      and_left_comm]
  same s s' each := by
    cases s
    cases s'
    simp_all [slots]
  choose P each := by
    simp only [slots, List.forall_mem_cons] at each ⊢
    obtain ⟨⟨listener, a⟩, ⟨dispatch, b⟩, ⟨logging, c⟩, -⟩ := each
    exact ⟨⟨listener, dispatch, logging⟩, a, b, c, List.forall_mem_nil _⟩

namespace Settings

variable {v : Json} {s : Settings}

/-- A file is decoded section by section. -/
theorem overDefaults_eq_ok_iff_slots (ordered : v.Ordered) :
    overDefaults v = .ok s ↔ v.IsRecord sectionNames ∧
      ∀ f ∈ slots v.isObject, f.Takes (v.said? sectionNames true f.name) standard s := by
  have decoded : overDefaults v = .ok s ↔ decode (merge (.object defaults) v) = .ok s := by
    rw [overDefaults, standard_json]
    cases decode (merge (.object defaults) v) <;> simp
  rw [decoded]
  cases v with
  | object ms =>
    have defaulted : ∀ f ∈ slots false, f.Takes (defaults.get? f.name) standard standard := by
      simp only [slots, List.forall_mem_cons]
      exact ⟨rfl, rfl, rfl, List.forall_mem_nil _⟩
    have merged : slots true = (slots false).map (Slot.onto defaults) := rfl
    show decodeSection _ _ set standard _ = _ ↔ _
    rw [decodes.section_merge_eq_ok_iff ordered_defaults.1 ordered.members defaulted]
    simp only [IsRecord, true_and, isObject, merged, List.forall_mem_map]
    rfl
  | array items =>
    have replaced : merge (.object defaults) (.array items) = .array items := by simp only [merge]
    rw [replaced]
    exact decodes.section_eq_ok_iff (by decide) ordered
  | _ => simp [merge, decode, decodeSection, refuse, IsRecord]

theorem ordered_of_said {names : List String} {overlaid : Bool} {name : String} {w : Json}
    (ordered : v.Ordered) (said : v.said? names overlaid name = some w) : w.Ordered := by
  cases v with
  | object ms =>
    have found : Members.get? ms name = some w := by
      cases overlaid with
      | true => exact (override?_eq_some_iff.mp said).1
      | false => exact said
    exact ordered.member found
  | array items =>
    have member := Members.mem_of_get? said
    cases ordered with
    | array each => exact each w (List.of_mem_zip member).2
  | _ => cases said

theorem takes_iff {t : Σ α, Setting α} (member : t ∈ Setting.all) {said : Option Json} :
    t.2.slot.Takes said standard s ↔
      (∀ w, said = some w → t.2.holds w (t.2.get s)) ∧
        (said = none → t.2.get s = t.2.get .standard) := by
  cases said with
  | some w =>
    simp only [Option.some.injEq, forall_eq', reduceCtorEq, false_implies, and_true]
    exact Setting.decode_eq_ok_iff t member w (t.2.get s)
  | none =>
    simp only [reduceCtorEq, false_implies, implies_true, true_and, forall_const]
    rfl

/-- The settings of a file one by one. -/
theorem states_iff : States v s ↔ v.IsRecord sectionNames ∧
    (∀ part ∈ sectionNames, ∀ w, v.said? sectionNames true part = some w →
      w.IsRecord (Setting.namesIn part)) ∧
    ∀ t ∈ Setting.all, t.2.slot.Takes (t.2.stated? v) standard s := by
  constructor
  · rintro ⟨root, sections, stated, silent⟩
    exact ⟨root, sections, fun t member => (takes_iff member).mpr ⟨stated t member, silent t member⟩⟩
  · rintro ⟨root, sections, each⟩
    exact ⟨root, sections, fun t member => ((takes_iff member).mp (each t member)).1,
      fun t member => ((takes_iff member).mp (each t member)).2⟩

/-- **What is decoded from a file over the defaults are the settings that it states.** -/
theorem overDefaults_eq_ok_iff (ordered : v.Ordered) : overDefaults v = .ok s ↔ States v s := by
  have said : ∀ {part : String} (w : Json), v.said? sectionNames true part = some w → w.Ordered :=
    fun _ => ordered_of_said ordered
  rw [overDefaults_eq_ok_iff_slots ordered, states_iff]
  simp only [slots, sectionNames, Setting.all, List.forall_mem_cons]
  constructor
  · rintro ⟨root, listener, dispatch, logging, -⟩
    obtain ⟨inListener, listener⟩ := (ListenerSettings.layout.part_iff said).mp listener
    obtain ⟨inDispatch, dispatch⟩ := (DispatchSettings.layout.part_iff said).mp dispatch
    obtain ⟨inLogging, logging⟩ := (LoggingSettings.layout.part_iff said).mp logging
    simp only [ListenerSettings.layout, ListenerSettings.fields, DispatchSettings.layout,
      DispatchSettings.fields, LoggingSettings.layout, LoggingSettings.fields,
      List.forall_mem_cons] at listener dispatch logging
    obtain ⟨host, port, idle, ceiling, -⟩ := listener
    obtain ⟨dispatchPort, concurrency, timeout, -⟩ := dispatch
    obtain ⟨level, format, modules, -⟩ := logging
    exact ⟨root, ⟨inListener, inDispatch, inLogging, List.forall_mem_nil _⟩, host, port, idle,
      ceiling, dispatchPort, concurrency, timeout, level, format, modules, List.forall_mem_nil _⟩
  · rintro ⟨root, ⟨inListener, inDispatch, inLogging, -⟩, host, port, idle, ceiling, dispatchPort,
      concurrency, timeout, level, format, modules, -⟩
    have listener := (ListenerSettings.layout.part_iff said).mpr ⟨inListener, by
      simp only [ListenerSettings.layout, ListenerSettings.fields, List.forall_mem_cons]
      exact ⟨host, port, idle, ceiling, List.forall_mem_nil _⟩⟩
    have dispatch := (DispatchSettings.layout.part_iff said).mpr ⟨inDispatch, by
      simp only [DispatchSettings.layout, DispatchSettings.fields, List.forall_mem_cons]
      exact ⟨dispatchPort, concurrency, timeout, List.forall_mem_nil _⟩⟩
    have logging := (LoggingSettings.layout.part_iff said).mpr ⟨inLogging, by
      simp only [LoggingSettings.layout, LoggingSettings.fields, List.forall_mem_cons]
      exact ⟨level, format, modules, List.forall_mem_nil _⟩⟩
    exact ⟨root, listener, dispatch, logging, List.forall_mem_nil _⟩

/-- A setting has a value that is not its default exactly when the file has one that stands
for it. -/
theorem States.get_eq_iff (states : States v s) {t : Σ α, Setting α} (member : t ∈ Setting.all)
    {x : t.1} (other : t.2.get .standard ≠ x) :
    t.2.get s = x ↔ ∃ w, t.2.stated? v = some w ∧ t.2.holds w x := by
  have decoded := Setting.decode_eq_ok_iff t member
  cases given : t.2.stated? v with
  | none =>
    have kept := states.silent t member given
    simp [kept, other]
  | some w =>
    have held := states.stated t member w given
    simp only [Option.some.injEq, exists_eq_left']
    constructor
    · rintro rfl
      exact held
    · intro holds
      have twice := (decoded w _).mpr held
      rw [(decoded w x).mpr holds] at twice
      exact (Except.ok.inj twice).symm

/-- What can be made of a file: the defaults where it is not there, and else what it states. -/
theorem ofFile_eq_ok_iff {file : FileState} : ofFile file = .ok s ↔
    (file = .absent ∧ s = standard) ∨ ∃ v, readFile file = .ok (some v) ∧ States v s := by
  cases file with
  | absent =>
    have made : ofFile .absent = .ok standard := rfl
    have nothing : readFile .absent = .ok none := rfl
    simp [made, nothing, eq_comm]
  | unreadable e => simp [ofFile, readFile]
  | content bytes =>
    cases read : readFile (.content bytes) with
    | error e => simp [ofFile, read]
    | ok found =>
      cases found with
      | none =>
        simp only [readFile] at read
        split at read
        · cases read
        · split at read <;> cases read
      | some v =>
        obtain ⟨-, ordered, made⟩ := content_of_readFile read
        simp [made, overDefaults_eq_ok_iff ordered]

end Settings

end StartSignal
