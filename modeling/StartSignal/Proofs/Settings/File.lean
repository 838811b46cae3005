/-
# StartSignal.Proofs.Settings.File -- what a file makes of the settings

A file is laid over the JSON form of the defaults, so that each section has its members in
order and under every name what the file gives or else the default (`Laid`).  To decode a
section is to look its settings up name by name (`Setting.among`), and each of them is what
the file makes of it alone (`Setting.among_laid`).

Main result: `decode_merge`.
-/
import StartSignal.Proofs.Json.Merge
import StartSignal.Proofs.Settings.Setting

namespace StartSignal

/-- The root of a file is an object, and so is every section that it says anything about. -/
def Json.Sectioned (file : Json) : Prop :=
  ∃ top, file = .object top ∧ ∀ part ∈ ["listener", "dispatch", "logging"], ∀ v,
    Members.get? top part = some v → v = .null ∨ ∃ ms, v = .object ms

/-- The members of a section that a file has been laid over. -/
structure Laid (file : Json) (part : String) (defaults members : Members Json) : Prop where
  ordered : members.Ordered
  found : ∀ name, members.get? name = (file.given? part name).or (defaults.get? name)

namespace Settings

open Json

/-! ## The merge -/

theorem given?_of_object {top inside : Members Json} {part : String}
    (here : Members.get? top part = some (.object inside)) (name : String) :
    (Json.object top).given? part name = override? inside name := by
  simp only [given?, at?, Json.get?, here, override?, Option.bind_some, Option.bind_fun_some]

theorem given?_of_silent {top : Members Json} {part : String}
    (silent : override? top part = none) (name : String) :
    (Json.object top).given? part name = none := by
  cases here : Members.get? top part with
  | none => simp [given?, at?, Json.get?, here]
  | some v =>
    cases v with
    | null => simp [given?, at?, Json.get?, here]
    | _ => simp [override?, here, isNull] at silent

/-- A section of defaults, none of which is an object, with a file laid over it. -/
theorem exists_laid (root : Members Json) {top defaults : Members Json} {part : String}
    (ordered : (Json.object top).Ordered)
    (sectioned : ∀ v, Members.get? top part = some v → v = .null ∨ ∃ ms, v = .object ms)
    (here : root.get? part = some (.object defaults)) (sorted : defaults.Ordered)
    (leaves : ∀ m ∈ defaults, ∀ ms, m.2 ≠ .object ms) :
    ∃ ms, (mergeMembers root top).get? part = some (.object ms) ∧
      Laid (.object top) part defaults ms := by
  rw [get?_mergeMembers ordered.members, here]
  cases said : override? top part with
  | none =>
    refine ⟨defaults, rfl, sorted, fun name => ?_⟩
    rw [given?_of_silent said]
    rfl
  | some v =>
    obtain ⟨found, solid⟩ := Option.filter_eq_some_iff.mp said
    rcases sectioned v found with rfl | ⟨inside, rfl⟩
    · cases solid
    · refine ⟨mergeMembers defaults inside, ?_, ordered_mergeMembers sorted inside, ?_⟩
      · simp only [mergeOption, merge_object]
      · intro name
        have ordered' : (Json.object inside).Ordered := ordered.member found
        rw [get?_mergeMembers ordered'.members, given?_of_object found]
        cases override? inside name with
        | none => rfl
        | some w =>
          cases old : defaults.get? name with
          | none => rfl
          | some base =>
            have leaf := leaves _ (Members.mem_of_get? old)
            simp only [mergeOption, merge_of_not_object leaf, Option.some_or]

end Settings

/-! ## Settings among the members of a section -/

namespace Setting

variable {α : Type}

/-- What the members of its section make of a setting: the value they give it, or the default. -/
def among (t : Setting α) (ms : Members Json) : Except DataError α :=
  ms.readOr t.name t.decode (t.get .standard)

/-- A setting that is looked up is what the members make of it. -/
theorem setNamed_among {σ β : Type} {ms : Members Json} (t : Setting α)
    (set : σ → String × Json → Except DataError σ) {s : σ} (put : α → σ)
    (known : ∀ v, set s (t.name, v) = (t.decode v).map put) (kept : put (t.get .standard) = s)
    {next : σ → Except DataError β} {next' : α → Except DataError β}
    (rest : ∀ x, next (put x) = next' x) :
    (Members.setNamed set ms s t.name >>= next) = t.among ms >>= next' :=
  Members.setNamed_bind set t.decode (t.get .standard) put known kept rest

/-- In a section that a file has been laid over, a setting is what the file makes of it. -/
theorem among_laid (t : Setting α) {file : Json} {defaults ms : Members Json}
    (laid : Laid file t.part defaults ms)
    (default : t.among defaults = .ok (t.get .standard)) : t.among ms = t.ofFile file := by
  have found := laid.found t.name
  cases said : file.given? t.part t.name with
  | some v => rw [among, Members.readOr, found, ofFile, said, Option.some_or]
  | none =>
    rw [said, Option.none_or] at found
    rw [among, Members.readOr, found, ofFile, said]
    exact default

end Setting

def DispatchSettings.defaults : Members Json :=
  [("connectTimeoutMs", .nat 10000), ("port", .nat 50000)]

def ListenerSettings.defaults : Members Json :=
  [("host", .string "0.0.0.0"), ("idleTimeoutSecs", .nat 60), ("messageCeiling", .nat 5),
   ("port", .nat 50000)]

def LoggingSettings.defaults : Members Json :=
  [("format", .string "json"), ("level", .string "info")]

section Sections

variable {file : Json} {ms : Members Json}

theorem DispatchSettings.decode_object (ordered : ms.Ordered) :
    decode (.object ms) = (do
      let connectTimeoutMs ← Setting.connectTimeoutMs.among ms
      let maxConcurrency ← Setting.maxConcurrency.among ms
      let port ← Setting.dispatchPort.among ms
      return { port, maxConcurrency, connectTimeoutMs }) := by
  have lookups : decode (.object ms) =
      [Setting.connectTimeoutMs.name, Setting.maxConcurrency.name,
        Setting.dispatchPort.name].foldlM (Members.setNamed set ms) standard := by
    refine Members.foldlM_eq_lookups (by decide) (fun s m other => ?_) ordered standard
    simp only [Setting.connectTimeoutMs, Setting.maxConcurrency, Setting.dispatchPort,
      List.mem_cons, List.not_mem_nil, or_false, not_or] at other
    simp only [set, other, if_false]
  rw [lookups, List.foldlM_cons]
  refine Setting.connectTimeoutMs.setNamed_among set
    (fun x => { standard with connectTimeoutMs := x }) (fun _ => rfl) rfl fun connectTimeoutMs => ?_
  rw [List.foldlM_cons]
  refine Setting.maxConcurrency.setNamed_among set
    (fun x => { standard with connectTimeoutMs, maxConcurrency := x }) (fun _ => rfl) rfl
    fun maxConcurrency => ?_
  rw [List.foldlM_cons]
  exact Setting.dispatchPort.setNamed_among set
    (fun x => ({ port := x, maxConcurrency, connectTimeoutMs } : DispatchSettings))
    (fun _ => rfl) rfl fun _ => rfl

theorem DispatchSettings.decode_laid (laid : Laid file "dispatch" defaults ms) :
    decode (.object ms) = (do
      let connectTimeoutMs ← Setting.connectTimeoutMs.ofFile file
      let maxConcurrency ← Setting.maxConcurrency.ofFile file
      let port ← Setting.dispatchPort.ofFile file
      return { port, maxConcurrency, connectTimeoutMs }) := by
  rw [decode_object laid.ordered, Setting.connectTimeoutMs.among_laid laid rfl,
    Setting.maxConcurrency.among_laid laid rfl, Setting.dispatchPort.among_laid laid rfl]

theorem ListenerSettings.decode_object (ordered : ms.Ordered) :
    decode (.object ms) = (do
      let host ← Setting.listenHost.among ms
      let idleTimeoutSecs ← Setting.idleTimeoutSecs.among ms
      let messageCeiling ← Setting.messageCeiling.among ms
      let port ← Setting.listenPort.among ms
      return { host, port, idleTimeoutSecs, messageCeiling }) := by
  have lookups : decode (.object ms) =
      [Setting.listenHost.name, Setting.idleTimeoutSecs.name, Setting.messageCeiling.name,
        Setting.listenPort.name].foldlM (Members.setNamed set ms) standard := by
    refine Members.foldlM_eq_lookups (by decide) (fun s m other => ?_) ordered standard
    simp only [Setting.listenHost, Setting.idleTimeoutSecs, Setting.messageCeiling,
      Setting.listenPort, List.mem_cons, List.not_mem_nil, or_false, not_or] at other
    simp only [set, other, if_false]
  rw [lookups, List.foldlM_cons]
  refine Setting.listenHost.setNamed_among set
    (fun x => { standard with host := x }) (fun _ => rfl) rfl fun host => ?_
  rw [List.foldlM_cons]
  refine Setting.idleTimeoutSecs.setNamed_among set
    (fun x => { standard with host, idleTimeoutSecs := x }) (fun _ => rfl) rfl
    fun idleTimeoutSecs => ?_
  rw [List.foldlM_cons]
  refine Setting.messageCeiling.setNamed_among set
    (fun x => { standard with host, idleTimeoutSecs, messageCeiling := x }) (fun _ => rfl) rfl
    fun messageCeiling => ?_
  rw [List.foldlM_cons]
  exact Setting.listenPort.setNamed_among set
    (fun x => ({ host, port := x, idleTimeoutSecs, messageCeiling } : ListenerSettings))
    (fun _ => rfl) rfl fun _ => rfl

theorem ListenerSettings.decode_laid (laid : Laid file "listener" defaults ms) :
    decode (.object ms) = (do
      let host ← Setting.listenHost.ofFile file
      let idleTimeoutSecs ← Setting.idleTimeoutSecs.ofFile file
      let messageCeiling ← Setting.messageCeiling.ofFile file
      let port ← Setting.listenPort.ofFile file
      return { host, port, idleTimeoutSecs, messageCeiling }) := by
  rw [decode_object laid.ordered, Setting.listenHost.among_laid laid rfl,
    Setting.idleTimeoutSecs.among_laid laid rfl, Setting.messageCeiling.among_laid laid rfl,
    Setting.listenPort.among_laid laid rfl]

theorem LoggingSettings.decode_object (ordered : ms.Ordered) :
    decode (.object ms) = (do
      let format ← Setting.logFormat.among ms
      let level ← Setting.logLevel.among ms
      let modules ← Setting.logModules.among ms
      return { level, format, modules }) := by
  have lookups : decode (.object ms) =
      [Setting.logFormat.name, Setting.logLevel.name, Setting.logModules.name].foldlM
        (Members.setNamed set ms) standard := by
    refine Members.foldlM_eq_lookups (by decide) (fun s m other => ?_) ordered standard
    simp only [Setting.logFormat, Setting.logLevel, Setting.logModules, List.mem_cons,
      List.not_mem_nil, or_false, not_or] at other
    simp only [set, other, if_false]
  rw [lookups, List.foldlM_cons]
  refine Setting.logFormat.setNamed_among set
    (fun x => { standard with format := x }) (fun _ => rfl) rfl fun format => ?_
  rw [List.foldlM_cons]
  refine Setting.logLevel.setNamed_among set
    (fun x => { standard with format, level := x }) (fun _ => rfl) rfl fun level => ?_
  rw [List.foldlM_cons]
  exact Setting.logModules.setNamed_among set
    (fun x => ({ level, format, modules := x } : LoggingSettings))
    (fun _ => rfl) rfl fun _ => rfl

theorem LoggingSettings.decode_laid (laid : Laid file "logging" defaults ms) :
    decode (.object ms) = (do
      let format ← Setting.logFormat.ofFile file
      let level ← Setting.logLevel.ofFile file
      let modules ← Setting.logModules.ofFile file
      return { level, format, modules }) := by
  rw [decode_object laid.ordered, Setting.logFormat.among_laid laid rfl,
    Setting.logLevel.among_laid laid rfl, Setting.logModules.among_laid laid rfl]

end Sections

/-! ## The whole file -/

namespace Settings

open Json

def defaults : Members Json :=
  [("dispatch", .object DispatchSettings.defaults), ("listener", .object ListenerSettings.defaults),
   ("logging", .object LoggingSettings.defaults)]

theorem ordered_defaults : defaults.Ordered ∧ DispatchSettings.defaults.Ordered ∧
    ListenerSettings.defaults.Ordered ∧ LoggingSettings.defaults.Ordered := by
  decide

theorem standard_json : standard.json = .object defaults := rfl

/-- Sections are decoded one after the other; one that is absent is at its defaults. -/
theorem decode_object {ms : Members Json} (ordered : ms.Ordered) :
    decode (.object ms) = (do
      let dispatch ← ms.readOr "dispatch" DispatchSettings.decode .standard
      let listener ← ms.readOr "listener" ListenerSettings.decode .standard
      let logging ← ms.readOr "logging" LoggingSettings.decode .standard
      return { listener, dispatch, logging }) := by
  have lookups : decode (.object ms) =
      ["dispatch", "listener", "logging"].foldlM (Members.setNamed set ms) standard := by
    refine Members.foldlM_eq_lookups (by decide) (fun s m other => ?_) ordered standard
    simp only [List.mem_cons, List.not_mem_nil, or_false, not_or] at other
    simp only [set, other, if_false]
  rw [lookups, List.foldlM_cons]
  refine Members.setNamed_bind set DispatchSettings.decode .standard
    (fun dispatch => { standard with dispatch }) (fun _ => rfl) rfl fun dispatch => ?_
  rw [List.foldlM_cons]
  refine Members.setNamed_bind set ListenerSettings.decode .standard
    (fun listener => { standard with listener, dispatch }) (fun _ => rfl) rfl fun listener => ?_
  rw [List.foldlM_cons]
  exact Members.setNamed_bind set LoggingSettings.decode .standard
    (fun logging => ({ listener, dispatch, logging } : Settings))
    (fun _ => rfl) rfl fun _ => rfl

/-- Settings each of which is what a file makes of it alone; the first that does not fit is
the error. -/
def ofParts (file : Json) : Except DataError Settings := do
  let connectTimeoutMs ← Setting.connectTimeoutMs.ofFile file
  let maxConcurrency ← Setting.maxConcurrency.ofFile file
  let dispatchPort ← Setting.dispatchPort.ofFile file
  let host ← Setting.listenHost.ofFile file
  let idleTimeoutSecs ← Setting.idleTimeoutSecs.ofFile file
  let messageCeiling ← Setting.messageCeiling.ofFile file
  let port ← Setting.listenPort.ofFile file
  let format ← Setting.logFormat.ofFile file
  let level ← Setting.logLevel.ofFile file
  let modules ← Setting.logModules.ofFile file
  return {
    listener := { host, port, idleTimeoutSecs, messageCeiling }
    dispatch := { port := dispatchPort, maxConcurrency, connectTimeoutMs }
    logging := { level, format, modules } }

theorem decode_merge {file : Json} (ordered : file.Ordered) (sectioned : file.Sectioned) :
    decode (merge standard.json file) = ofParts file := by
  obtain ⟨top, rfl, sections⟩ := sectioned
  obtain ⟨sorted, sortedDispatch, sortedListener, sortedLogging⟩ := ordered_defaults
  obtain ⟨dispatch, foundDispatch, laidDispatch⟩ :=
    exists_laid defaults ordered (sections "dispatch" (by simp)) rfl sortedDispatch
      (by simp [DispatchSettings.defaults, nat])
  obtain ⟨listener, foundListener, laidListener⟩ :=
    exists_laid defaults ordered (sections "listener" (by simp)) rfl sortedListener
      (by simp [ListenerSettings.defaults, nat])
  obtain ⟨logging, foundLogging, laidLogging⟩ :=
    exists_laid defaults ordered (sections "logging" (by simp)) rfl sortedLogging
      (by simp [LoggingSettings.defaults])
  rw [standard_json, merge_object, decode_object (ordered_mergeMembers sorted top)]
  simp only [Members.readOr, foundDispatch, foundListener, foundLogging,
    DispatchSettings.decode_laid laidDispatch, ListenerSettings.decode_laid laidListener,
    LoggingSettings.decode_laid laidLogging, bind_assoc, pure_bind]
  rfl

end Settings

end StartSignal
