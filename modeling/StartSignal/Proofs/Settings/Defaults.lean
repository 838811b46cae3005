/-
# StartSignal.Proofs.Settings.Defaults -- defaults laid beneath a value

What a value does not say of the settings can be filled in in two ways.  It is laid over the
JSON form of the defaults and the result is decoded; or it is decoded as it is, where a
setting that is not named keeps its default.  Both come to the same settings, or to the same
first error, unless a null stands where a section or a setting may stand.

A default that nothing is laid over is read as the default, and one that something is laid
over is covered by it (`readOr_mergeMembers`): a text or a number altogether
(`Setting.among_merge`), a section setting by setting (`readOr_section`).

Main result: `decode_over_defaults`.
-/
import StartSignal.Proofs.Settings.File

namespace StartSignal

namespace Json

/-- No member is null.  A value that is no object has no members. -/
def FreeOfNull : Json → Prop
  | .object ms => ∀ m ∈ ms, m.2.isNull = false
  | _ => True

theorem FreeOfNull.override?_eq {ms : Members Json} (free : (Json.object ms).FreeOfNull)
    (name : String) : override? ms name = ms.get? name := by
  rw [override?]
  cases found : ms.get? name with
  | none => rfl
  | some v =>
    have solid : v.isNull = false := free _ (Members.mem_of_get? found)
    simp [solid]

end Json

section Merge

open Json

variable {base overrides : Members Json} (ordered : overrides.Ordered)
  (free : (Json.object overrides).FreeOfNull)
include ordered free

/-- To lay members over others makes no difference to what is read under a name, if what was
there is read as the default and is covered by what is laid over it. -/
theorem readOr_mergeMembers {ε α : Type} {name : String} {read : Json → Except ε α} {default : α}
    (fresh : base.readOr name read default = .ok default)
    (covered : ∀ w v, base.get? name = some w → overrides.get? name = some v →
      read (merge w v) = read v) :
    (mergeMembers base overrides).readOr name read default =
      overrides.readOr name read default := by
  rw [Members.readOr, get?_mergeMembers ordered, free.override?_eq, Members.readOr]
  cases said : overrides.get? name with
  | none => exact fresh
  | some v =>
    cases old : base.get? name with
    | none => rfl
    | some w => exact covered w v old said

/-- A setting that is at its default among members that are no objects. -/
theorem Setting.among_merge {α : Type} (t : Setting α)
    (default : t.among base = .ok (t.get .standard)) (leaves : ∀ m ∈ base, ∀ ms, m.2 ≠ .object ms) :
    t.among (mergeMembers base overrides) = t.among overrides := by
  refine readOr_mergeMembers ordered free default fun w v old _ => ?_
  rw [merge_of_not_object (leaves _ (Members.mem_of_get? old))]

end Merge

section Sections

open Json

variable {v : Json} (ordered : v.Ordered) (free : v.FreeOfNull)
include ordered free

theorem DispatchSettings.decode_merge : decode (merge (.object defaults) v) = decode v := by
  cases v with
  | object ms =>
    have leaves : ∀ m ∈ defaults, ∀ ms, m.2 ≠ .object ms := by simp [defaults, nat]
    have sorted : defaults.Ordered := Settings.ordered_defaults.2.1
    rw [merge_object, decode_object (ordered_mergeMembers sorted ms), decode_object ordered.members,
      Setting.connectTimeoutMs.among_merge ordered.members free rfl leaves,
      Setting.maxConcurrency.among_merge ordered.members free rfl leaves,
      Setting.dispatchPort.among_merge ordered.members free rfl leaves]
  | _ => simp only [merge]

theorem ListenerSettings.decode_merge : decode (merge (.object defaults) v) = decode v := by
  cases v with
  | object ms =>
    have leaves : ∀ m ∈ defaults, ∀ ms, m.2 ≠ .object ms := by simp [defaults, nat]
    have sorted : defaults.Ordered := Settings.ordered_defaults.2.2.1
    rw [merge_object, decode_object (ordered_mergeMembers sorted ms), decode_object ordered.members,
      Setting.listenHost.among_merge ordered.members free rfl leaves,
      Setting.idleTimeoutSecs.among_merge ordered.members free rfl leaves,
      Setting.messageCeiling.among_merge ordered.members free rfl leaves,
      Setting.listenPort.among_merge ordered.members free rfl leaves]
  | _ => simp only [merge]

theorem LoggingSettings.decode_merge : decode (merge (.object defaults) v) = decode v := by
  cases v with
  | object ms =>
    have leaves : ∀ m ∈ defaults, ∀ ms, m.2 ≠ .object ms := by simp [defaults]
    have sorted : defaults.Ordered := Settings.ordered_defaults.2.2.2
    rw [merge_object, decode_object (ordered_mergeMembers sorted ms), decode_object ordered.members,
      Setting.logFormat.among_merge ordered.members free rfl leaves,
      Setting.logLevel.among_merge ordered.members free rfl leaves,
      Setting.logModules.among_merge ordered.members free rfl leaves]
  | _ => simp only [merge]

end Sections

namespace Settings

open Json

/-- A section of a value that is laid over the defaults. -/
theorem readOr_section {σ : Type} {top base : Members Json} {part : String}
    (ordered : (Json.object top).Ordered) (free : (Json.object top).FreeOfNull)
    (decode : Json → Except DataError σ) (standard : σ)
    (here : defaults.get? part = some (.object base)) (fresh : decode (.object base) = .ok standard)
    (merged : ∀ v, v.Ordered → v.FreeOfNull → decode (merge (.object base) v) = decode v)
    (inside : ∀ v, (Json.object top).get? part = some v → v.FreeOfNull) :
    (mergeMembers defaults top).readOr part decode standard = top.readOr part decode standard := by
  refine readOr_mergeMembers ordered.members free ?_ fun w v old said => ?_
  · rw [Members.readOr, here]
    exact fresh
  · obtain rfl : Json.object base = w := Option.some.inj (here.symm.trans old)
    exact merged v (ordered.member said) (inside v said)

/-- Members without a null, at the root and in the sections, that are laid over the defaults. -/
theorem decode_mergeMembers {top : Members Json} (ordered : (Json.object top).Ordered)
    (free : (Json.object top).FreeOfNull)
    (inside : ∀ part ∈ ["listener", "dispatch", "logging"], ∀ v,
      (Json.object top).get? part = some v → v.FreeOfNull) :
    decode (.object (mergeMembers defaults top)) = decode (.object top) := by
  have sorted : (mergeMembers defaults top).Ordered := ordered_mergeMembers ordered_defaults.1 top
  rw [decode_object sorted, decode_object ordered.members,
    readOr_section ordered free DispatchSettings.decode .standard rfl rfl
      (fun _ => DispatchSettings.decode_merge) (inside "dispatch" (by simp)),
    readOr_section ordered free ListenerSettings.decode .standard rfl rfl
      (fun _ => ListenerSettings.decode_merge) (inside "listener" (by simp)),
    readOr_section ordered free LoggingSettings.decode .standard rfl rfl
      (fun _ => LoggingSettings.decode_merge) (inside "logging" (by simp))]

/-- **To lay a value over the defaults is to decode it.**  The settings are the same, or the
first error is, for a value without a null among the members of its root and of its sections. -/
theorem decode_over_defaults {file : Json} (ordered : file.Ordered) (free : file.FreeOfNull)
    (inside : ∀ part ∈ ["listener", "dispatch", "logging"], ∀ v, file.get? part = some v →
      v.FreeOfNull) :
    decode (merge standard.json file) = decode file := by
  rw [standard_json]
  cases file with
  | object top =>
    rw [merge_object]
    exact decode_mergeMembers ordered free inside
  | _ => simp only [merge]

/-- A value that names a port, a host by its place, and two things that are no settings. -/
def sparseJson : Json :=
  .object [("banner", .array [.null]),
    ("dispatch", .object [("port", .nat 7), ("retries", .bool true)]),
    ("listener", .array [.string "127.0.0.1"])]

/-- A value with three faults, of which the timeout comes first. -/
def faultyJson : Json :=
  .object [("dispatch", .object [("connectTimeoutMs", .string "soon"), ("port", .bool true)]),
    ("listener", .nat 3)]

theorem decode_over_defaults_sparse :
    decode (merge standard.json sparseJson) = decode sparseJson ∧
      decode sparseJson = .ok { standard with
        listener := { standard.listener with host := "127.0.0.1" }
        dispatch := { standard.dispatch with port := 7 } } ∧
      decode (merge standard.json faultyJson) = decode faultyJson ∧
      decode faultyJson = .error (.invalidType "string \"soon\"" "u64") := by
  have sparse : sparseJson.Ordered := by
    refine .object (by decide) ?_
    simp only [List.forall_mem_cons]
    refine ⟨.array (by simp [Ordered.null]), .object (by decide) ?_,
      .array (by simp [Ordered.string]), List.forall_mem_nil _⟩
    simp [Ordered.bool, Ordered.number, nat]
  have faulty : faultyJson.Ordered := by
    refine .object (by decide) ?_
    simp only [List.forall_mem_cons]
    refine ⟨.object (by decide) ?_, .number _, List.forall_mem_nil _⟩
    simp only [List.forall_mem_cons]
    exact ⟨.string _, .bool _, List.forall_mem_nil _⟩
  refine ⟨decode_over_defaults sparse ?_ ?_, rfl, decode_over_defaults faulty ?_ ?_, rfl⟩
  · simp [sparseJson, FreeOfNull, isNull]
  · simp [sparseJson, Json.get?, Members.get?, FreeOfNull, isNull, nat, or_imp, forall_and]
  · simp [faultyJson, FreeOfNull, isNull, nat]
  · simp [faultyJson, Json.get?, Members.get?, FreeOfNull, isNull, nat, or_imp, forall_and]

/-- A null is where the two part: it leaves a default that it is laid over as it is. -/
example : decode (merge standard.json (.object [("listener", .null)])) = .ok standard ∧
    decode (.object [("listener", .null)]) =
      .error (.invalidType "null" "struct ListenerSettings") := ⟨rfl, rfl⟩

end Settings

end StartSignal
