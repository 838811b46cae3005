/-
# StartSignal.Proofs.Settings.Saved -- settings that are saved and loaded

Settings that are saved in a file as JSON are those that the file gives.  The parser reads
their form back from its text, whatever their strings hold, since it is plain
(`Settings.plain_json`).  Decoding gives every setting back that is written
(`Settings.decode_json`).  Two are left out when there is nothing to write, the concurrency and
the modules, and these are the two that the defaults say nothing about: nothing comes up from
beneath, and they are absent again.

Main result: `saved_loads`.
-/
import StartSignal.Proofs.Json.Printed
import StartSignal.Proofs.Settings.Defaults
import StartSignal.Proofs.Settings.Mending
import StartSignal.Proofs.Text.Utf8

namespace StartSignal

/-! ## Values that are written and read -/

namespace Json

theorem plain_nat {depth n : Nat} (fits : n < UInt64.size) : Plain depth (.nat n) :=
  .number (by omega) (by omega)

/-- What is to be read back has its members in order. -/
theorem Plain.ordered {depth : Nat} {v : Json} (plain : Plain depth v) : v.Ordered := by
  induction plain with
  | null => exact .null
  | bool b => exact .bool b
  | number => exact .number _
  | string s => exact .string s
  | array _ ih => exact .array ih
  | object names _ ih => exact .object names ih

theorem plain_texts {ms : Members String} (ordered : ms.Ordered) (depth : Nat) :
    Plain (depth + 1) (.object (texts ms)) := by
  refine .object (List.pairwise_map.mpr ordered) fun m member => ?_
  obtain ⟨n, -, rfl⟩ := List.mem_map.mp member
  exact .string _

end Json

/-! ## Sections -/

open Json

/-- A setting that is found among the members of its section. -/
theorem Setting.among_found {α : Type} (t : Setting α) {ms : Members Json} {v : Json} {x : α}
    (found : ms.get? t.name = some v) (read : t.decode v = .ok x) : t.among ms = .ok x := by
  rw [among, Members.readOr, found]
  exact read

/-- A setting that is not found is at its default. -/
theorem Setting.among_absent {α : Type} (t : Setting α) {ms : Members Json}
    (absent : ms.get? t.name = none) : t.among ms = .ok (t.get .standard) := by
  rw [among, Members.readOr, absent]

section Listener

variable (s : ListenerSettings)

def ListenerSettings.members : Members Json :=
  [("host", .string s.host), ("idleTimeoutSecs", .nat s.idleTimeoutSecs.toNat),
    ("messageCeiling", .nat s.messageCeiling.toNat), ("port", .nat s.port.toNat)]

theorem ListenerSettings.json_eq : s.json = .object s.members := by
  simp only [json, ofMembers, Members.ofList, List.foldl_cons, List.foldl_nil, Members.insert,
    String.reduceEq, String.reduceLT, if_true, if_false, members]

theorem ListenerSettings.ordered_members : s.members.Ordered :=
  Members.ordered_of_keys
    (show s.members.keys = ["host", "idleTimeoutSecs", "messageCeiling", "port"] from rfl)
    (by decide)

theorem ListenerSettings.plain_json (depth : Nat) : Plain (depth + 1) s.json := by
  rw [json_eq]
  refine .object s.ordered_members ?_
  simp only [members, List.forall_mem_cons]
  exact ⟨.string _, plain_nat s.idleTimeoutSecs.toNat_lt_size,
    plain_nat (Nat.lt_trans s.messageCeiling.toNat_lt_size (by decide)),
    plain_nat (Nat.lt_trans s.port.toNat_lt_size (by decide)), List.forall_mem_nil _⟩

theorem ListenerSettings.decode_json : decode s.json = .ok s := by
  have host : Setting.listenHost.among s.members = .ok s.host :=
    Setting.listenHost.among_found rfl rfl
  have idle : Setting.idleTimeoutSecs.among s.members = .ok s.idleTimeoutSecs :=
    Setting.idleTimeoutSecs.among_found rfl
      (by simp only [Setting.idleTimeoutSecs, decodeUInt64_eq_ok_iff])
  have ceiling : Setting.messageCeiling.among s.members = .ok s.messageCeiling :=
    Setting.messageCeiling.among_found rfl
      (by simp only [Setting.messageCeiling, decodeUInt32_eq_ok_iff])
  have port : Setting.listenPort.among s.members = .ok s.port :=
    Setting.listenPort.among_found rfl (by simp only [Setting.listenPort, decodeUInt16_eq_ok_iff])
  rw [json_eq, decode_object s.ordered_members, host, idle, ceiling, port]
  rfl

end Listener

section Dispatch

variable (s : DispatchSettings)

/-- The members of the section in order; an absent concurrency is left out. -/
def DispatchSettings.members : Members Json :=
  ("connectTimeoutMs", .nat s.connectTimeoutMs.toNat) ::
    (match s.maxConcurrency with
      | some n => [("maxConcurrency", .nat n.toNat), ("port", .nat s.port.toNat)]
      | none => [("port", .nat s.port.toNat)])

theorem DispatchSettings.json_eq : s.json = .object s.members := by
  unfold json members
  cases s.maxConcurrency <;>
    simp only [ofMembers, Members.ofList, List.cons_append, List.nil_append, List.foldl_cons,
      List.foldl_nil, Members.insert, String.reduceEq, String.reduceLT, if_true, if_false]

theorem DispatchSettings.ordered_members : s.members.Ordered := by
  unfold members
  cases s.maxConcurrency with
  | none =>
    exact Members.ordered_of_keys
      (show Members.keys _ = ["connectTimeoutMs", "port"] from rfl) (by decide)
  | some n =>
    exact Members.ordered_of_keys
      (show Members.keys _ = ["connectTimeoutMs", "maxConcurrency", "port"] from rfl) (by decide)

theorem DispatchSettings.plain_json (depth : Nat) : Plain (depth + 1) s.json := by
  rw [json_eq]
  refine .object s.ordered_members ?_
  unfold members
  have port : Plain depth (.nat s.port.toNat) :=
    plain_nat (Nat.lt_trans s.port.toNat_lt_size (by decide))
  cases s.maxConcurrency with
  | none =>
    simp only [List.forall_mem_cons]
    exact ⟨plain_nat s.connectTimeoutMs.toNat_lt_size, port, List.forall_mem_nil _⟩
  | some n =>
    simp only [List.forall_mem_cons]
    exact ⟨plain_nat s.connectTimeoutMs.toNat_lt_size, plain_nat n.toNat_lt_size, port,
      List.forall_mem_nil _⟩

theorem DispatchSettings.decode_json : decode s.json = .ok s := by
  have timeout : Setting.connectTimeoutMs.among s.members = .ok s.connectTimeoutMs :=
    Setting.connectTimeoutMs.among_found rfl
      (by simp only [Setting.connectTimeoutMs, decodeUInt64_eq_ok_iff])
  have concurrency : Setting.maxConcurrency.among s.members = .ok s.maxConcurrency := by
    unfold members
    cases s.maxConcurrency with
    | none => exact Setting.maxConcurrency.among_absent rfl
    | some n =>
      exact Setting.maxConcurrency.among_found rfl
        (by simp only [Setting.maxConcurrency, decodeCount_eq_ok_iff, HoldsCount])
  have port : Setting.dispatchPort.among s.members = .ok s.port := by
    unfold members
    cases s.maxConcurrency <;>
      exact Setting.dispatchPort.among_found rfl
        (by simp only [Setting.dispatchPort, decodeUInt16_eq_ok_iff])
  rw [json_eq, decode_object s.ordered_members, timeout, concurrency, port]
  rfl

end Dispatch

section Logging

variable (s : LoggingSettings)

/-- The members of the section in order; an empty table of modules is left out. -/
def LoggingSettings.members : Members Json :=
  ("format", .string s.format.name) :: ("level", .string s.level) ::
    if s.modules.isEmpty then [] else [("modules", .object (texts s.modules))]

theorem LoggingSettings.json_eq : s.json = .object s.members := by
  unfold json members
  split <;>
    simp only [ofMembers, Members.ofList, List.cons_append, List.nil_append, List.foldl_cons,
      List.foldl_nil, Members.insert, String.reduceEq, String.reduceLT, if_true, if_false, texts]

theorem LoggingSettings.ordered_members : s.members.Ordered := by
  unfold members
  split
  · exact Members.ordered_of_keys (show Members.keys _ = ["format", "level"] from rfl) (by decide)
  · exact Members.ordered_of_keys
      (show Members.keys _ = ["format", "level", "modules"] from rfl) (by decide)

theorem LoggingSettings.plain_json (ordered : s.modules.Ordered) (depth : Nat) :
    Plain (depth + 2) s.json := by
  rw [json_eq]
  refine .object s.ordered_members ?_
  simp only [members, List.forall_mem_cons]
  refine ⟨.string _, .string _, ?_⟩
  split
  · exact List.forall_mem_nil _
  · exact List.forall_mem_singleton.mpr (plain_texts ordered depth)

theorem LoggingSettings.decode_json : decode s.json = .ok s := by
  have format : Setting.logFormat.among s.members = .ok s.format :=
    Setting.logFormat.among_found rfl (decodeFormat_eq_ok_iff.mpr (holdsFormat_iff.mpr (.inl rfl)))
  have level : Setting.logLevel.among s.members = .ok s.level :=
    Setting.logLevel.among_found rfl rfl
  have modules : Setting.logModules.among s.members = .ok s.modules := by
    unfold members
    split
    · rename_i nobody
      rw [List.isEmpty_iff.mp nobody]
      exact Setting.logModules.among_absent rfl
    · exact Setting.logModules.among_found rfl (decodeTable_eq_ok_iff.mpr rfl)
  rw [json_eq, decode_object s.ordered_members, format, level, modules]
  rfl

end Logging

/-! ## The whole -/

namespace Settings

open Override

variable {s : Settings}

def members (s : Settings) : Members Json :=
  [("dispatch", s.dispatch.json), ("listener", s.listener.json), ("logging", s.logging.json)]

theorem json_eq (s : Settings) : s.json = .object s.members := by
  simp only [json, ofMembers, Members.ofList, List.foldl_cons, List.foldl_nil, Members.insert,
    String.reduceEq, String.reduceLT, if_true, if_false, members]

theorem ordered_members (s : Settings) : s.members.Ordered :=
  Members.ordered_of_keys (show s.members.keys = ["dispatch", "listener", "logging"] from rfl)
    (by decide)

/-- Saved settings can be read back, whatever their texts hold. -/
theorem plain_json (ordered : s.logging.modules.Ordered) (depth : Nat) :
    Plain (depth + 3) s.json := by
  rw [json_eq]
  refine .object s.ordered_members ?_
  simp only [members, List.forall_mem_cons]
  exact ⟨s.dispatch.plain_json _, s.listener.plain_json _, s.logging.plain_json ordered depth,
    List.forall_mem_nil _⟩

/-- Every setting is decoded to what it was, those that are left out included. -/
theorem decode_json (s : Settings) : decode s.json = .ok s := by
  have dispatch : s.members.readOr "dispatch" DispatchSettings.decode .standard = .ok s.dispatch :=
    s.dispatch.decode_json
  have listener : s.members.readOr "listener" ListenerSettings.decode .standard = .ok s.listener :=
    s.listener.decode_json
  have logging : s.members.readOr "logging" LoggingSettings.decode .standard = .ok s.logging :=
    s.logging.decode_json
  rw [json_eq, decode_object s.ordered_members, dispatch, listener, logging]
  rfl

/-- Nothing that is written is null. -/
theorem free_json (s : Settings) : s.json.FreeOfNull ∧
    ∀ part ∈ ["listener", "dispatch", "logging"], ∀ v, s.json.get? part = some v →
      v.FreeOfNull := by
  have dispatch : s.dispatch.json.FreeOfNull := by
    rw [DispatchSettings.json_eq]
    unfold DispatchSettings.members
    cases s.dispatch.maxConcurrency <;> simp [FreeOfNull, isNull, nat]
  have listener : s.listener.json.FreeOfNull := by
    rw [ListenerSettings.json_eq]
    simp [ListenerSettings.members, FreeOfNull, isNull, nat]
  have logging : s.logging.json.FreeOfNull := by
    rw [LoggingSettings.json_eq]
    unfold LoggingSettings.members
    split <;> simp [FreeOfNull, isNull]
  constructor
  · rw [json_eq]
    simp [members, FreeOfNull, ListenerSettings.json_eq, DispatchSettings.json_eq,
      LoggingSettings.json_eq, isNull]
  · rw [json_eq]
    simp [members, Json.get?, Members.get?, listener, dispatch, logging]

/-- What is written covers the defaults, and what is left out has none. -/
theorem overDefaults_json (ordered : s.logging.modules.Ordered) : overDefaults s.json = .ok s := by
  have sorted : s.json.Ordered := (plain_json ordered 0).ordered
  have given : decode s.json = .ok s := s.decode_json
  obtain ⟨free, inside⟩ := s.free_json
  rw [json_eq] at sorted given free inside
  rw [overDefaults, standard_json, json_eq, merge_object, decode_mergeMembers sorted free inside,
    given]

/-- A file with the text of saved settings. -/
def savedFile (s : Settings) : FileState := .content (Text.Utf8.bytes s.json.render)

theorem readFile_savedFile (ordered : s.logging.modules.Ordered) :
    readFile s.savedFile = .ok (some s.json) := by
  have decoded : Text.Utf8.decode? (Text.Utf8.bytes s.json.render) = some s.json.chars := by
    rw [Text.Utf8.bytes, render, String.toList_ofList, Text.Utf8.decode?_encode]
  rw [savedFile, readFile, decoded]
  dsimp only
  rw [parseChars_chars (plain_json ordered _)]

/-- Without variables nothing is overridden, and nothing reported. -/
theorem override_of_unset {lookup : Lookup} (unset : ∀ name ∈ Override.names, lookup name = none)
    (s : Settings) : s.override lookup = (s, []) :=
  override_congr (fun name member => (unset name member : lookup name = noVariables name)) s

/-- Settings that are saved are those that are loaded. -/
structure Saved (s : Settings) : Prop where
  /-- Their text is read as their JSON form. -/
  written : readFile s.savedFile = .ok (some s.json)
  /-- Every file that is read as this form, however it is spelled, gives the settings. -/
  given : ∀ file, readFile file = .ok (some s.json) → ofFile file = .ok s
  /-- So does loading it without variables, if no value makes a side useless; nothing but the
  file is reported. -/
  loaded : s.validate = .ok () → ∀ path file lookup, readFile file = .ok (some s.json) →
    (∀ name ∈ Override.names, lookup name = none) →
      load path file lookup = (.ok s, [fileRecord path file])
  /-- A value that does is what is wrong with the file. -/
  refused : ∀ e, s.validate = .error e → ∀ path file lookup,
    readFile file = .ok (some s.json) → (∀ name ∈ Override.names, lookup name = none) →
      load path file lookup = (.error (.invalid e), [fileRecord path file])

/-- **Settings are loaded from the file in which they have been saved**, if their modules are a
table, each name once and in order. -/
theorem saved_loads (s : Settings) (ordered : s.logging.modules.Ordered) : Saved s := by
  have given : ∀ file, readFile file = .ok (some s.json) → ofFile file = .ok s := by
    intro file read
    rw [ofFile, read]
    exact overDefaults_json ordered
  constructor
  case written => exact readFile_savedFile ordered
  case given => exact given
  case loaded =>
    intro valid path file lookup read unset
    simp only [load, given file read, override_of_unset unset, valid, List.append_nil]
  case refused =>
    intro e invalid path file lookup read unset
    simp only [load, given file read, override_of_unset unset, invalid, List.append_nil]

/-- Settings at the ends of their types, with texts that have to be escaped. -/
def awkward : Settings where
  listener := ⟨"\"\\\t\x01é\x7f", 0, 18446744073709551615, 1⟩
  dispatch := ⟨65535, some 7, 0⟩
  logging := ⟨"", .text, [("", "off"), ("net::wire", "débug\n")]⟩

theorem saved_loads_awkward :
    awkward.logging.modules.Ordered ∧ awkward.validate = .ok () ∧
      (∀ name ∈ Override.names, noVariables name = none) ∧
      load (.ofText "settings.json") awkward.savedFile noVariables =
        (.ok awkward, [fileRecord (.ofText "settings.json") awkward.savedFile]) := by
  have ordered : awkward.logging.modules.Ordered := by
    unfold Members.Ordered
    decide
  have unset : ∀ name ∈ Override.names, noVariables name = none := fun _ _ => rfl
  have saved := saved_loads awkward ordered
  exact ⟨ordered, rfl, unset, saved.loaded rfl _ _ _ saved.written unset⟩

end Settings

end StartSignal
