/-
# StartSignal.Proofs.Settings.Variables -- what the environment overrides

A number variable counts exactly when it is a numeral between blanks that stands for a
number inside its range (`number?_eq_some_iff`).  Every setting takes the value of its
variable if that counts and stays as it is if not (`override_eq`), and no other variable is
looked at (`override_congr`).  That is said once for all settings (`Setting.governed`): what
becomes of one of them follows from its own variable (`Setting.Governed`).
-/
import Mathlib.Tactic.SplitIfs
import StartSignal.Proofs.Settings.Range
import StartSignal.Proofs.Settings.Setting

namespace StartSignal

/-! ## Numbers -/

theorem parseInRange_eq_some_iff {w : Width} (unsigned : w.signed = false) {low high : Nat}
    (fits : (high : Int) ≤ w.high) {raw : String} {i : Int} :
    parseInRange w low high raw = some i ↔ ∃ n : Nat, i = n ∧ ReadsNumber low high raw n := by
  have room : ∀ {n : Nat}, n ≤ high → n < 2 ^ w.bits := by
    intro n least
    exact (Width.le_high_iff unsigned).mp (by omega)
  simp only [parseInRange_eq_some_iff_reads unsigned, ReadsNumber, Int.ofNat_le]
  constructor
  · rintro ⟨n, rfl, reads, -, inside⟩
    exact ⟨n, rfl, reads, inside⟩
  · rintro ⟨n, rfl, reads, inside⟩
    exact ⟨n, rfl, reads, room inside.2, inside⟩

namespace Override

variable {lookup : Lookup} {name : String} {α : Type}

/-! ## Variables that count -/

theorem text?_eq_some_iff {v : String} :
    text? lookup name = some v ↔ ∃ raw, lookup name = some raw ∧ raw = v ∧ v ≠ "" := by
  simp only [text?, Option.filter_eq_some_iff, String.isEmpty_iff, Bool.not_eq_true',
    Bool.eq_false_iff, ne_eq]
  constructor
  · rintro ⟨found, some⟩
    exact ⟨v, found, rfl, some⟩
  · rintro ⟨raw, found, rfl, some⟩
    exact ⟨found, some⟩

theorem number?_eq_some_iff {w : Width} (unsigned : w.signed = false) {low high : Nat}
    (fits : (high : Int) ≤ w.high) {n : Nat} :
    number? lookup name w low high = some n ↔
      ∃ raw, lookup name = some raw ∧ ReadsNumber low high raw n := by
  simp only [number?, Option.map_eq_some_iff, Option.bind_eq_some_iff]
  constructor
  · rintro ⟨i, ⟨raw, found, parsed⟩, rfl⟩
    obtain ⟨n, rfl, reads⟩ := (parseInRange_eq_some_iff unsigned fits).mp parsed
    exact ⟨raw, found, reads⟩
  · rintro ⟨raw, found, reads⟩
    exact ⟨n, ⟨raw, found, (parseInRange_eq_some_iff unsigned fits).mpr ⟨n, rfl, reads⟩⟩, rfl⟩

section Widths

variable {low high : Nat}

theorem map_number?_eq_some_iff {w : Width} (unsigned : w.signed = false)
    (fits : (high : Int) ≤ w.high) {ofNat : Nat → α} {toNat : α → Nat}
    (ofNat_toNat : ∀ x, ofNat (toNat x) = x) (toNat_ofNat : ∀ n ≤ high, toNat (ofNat n) = n)
    {x : α} :
    (number? lookup name w low high).map ofNat = some x ↔
      ∃ raw, lookup name = some raw ∧ ReadsNumber low high raw (toNat x) := by
  simp only [Option.map_eq_some_iff, number?_eq_some_iff unsigned fits]
  constructor
  · rintro ⟨n, ⟨raw, found, reads⟩, rfl⟩
    rw [toNat_ofNat n reads.2.2]
    exact ⟨raw, found, reads⟩
  · rintro ⟨raw, found, reads⟩
    exact ⟨toNat x, ⟨raw, found, reads⟩, ofNat_toNat x⟩

theorem number16?_eq_some_iff (fits : high < UInt16.size) {x : UInt16} :
    (number? lookup name .u16 low high).map UInt16.ofNat = some x ↔
      ∃ raw, lookup name = some raw ∧ ReadsNumber low high raw x.toNat :=
  map_number?_eq_some_iff rfl (Int.le_sub_one_of_lt (Int.ofNat_lt.mpr fits))
    (fun _ => UInt16.ofNat_toNat)
    fun _ le => UInt16.toNat_ofNat_of_lt' (Nat.lt_of_le_of_lt le fits)

theorem number32?_eq_some_iff (fits : high < UInt32.size) {x : UInt32} :
    (number? lookup name .u32 low high).map UInt32.ofNat = some x ↔
      ∃ raw, lookup name = some raw ∧ ReadsNumber low high raw x.toNat :=
  map_number?_eq_some_iff rfl (Int.le_sub_one_of_lt (Int.ofNat_lt.mpr fits))
    (fun _ => UInt32.ofNat_toNat)
    fun _ le => UInt32.toNat_ofNat_of_lt' (Nat.lt_of_le_of_lt le fits)

theorem number64?_eq_some_iff (fits : high < UInt64.size) {x : UInt64} :
    (number? lookup name .u64 low high).map UInt64.ofNat = some x ↔
      ∃ raw, lookup name = some raw ∧ ReadsNumber low high raw x.toNat :=
  map_number?_eq_some_iff rfl (Int.le_sub_one_of_lt (Int.ofNat_lt.mpr fits))
    (fun _ => UInt64.ofNat_toNat)
    fun _ le => UInt64.toNat_ofNat_of_lt' (Nat.lt_of_le_of_lt le fits)

theorem count?_eq_some_iff (fits : high < UInt64.size) {x : Option UInt64} :
    ((number? lookup name .u64 low high).map fun n => some (UInt64.ofNat n)) = some x ↔
      ∃ raw, lookup name = some raw ∧ ∃ n, x = some n ∧ ReadsNumber low high raw n.toNat := by
  cases x with
  | none => simp
  | some c =>
    have same : (number? lookup name .u64 low high).map UInt64.ofNat = some c ↔ _ :=
      number64?_eq_some_iff fits
    simp only [Option.map_eq_some_iff, Option.some.injEq, exists_eq_left'] at same ⊢
    exact same

end Widths

theorem parse_eq_ok_iff {raw : String} {f : Log.Format} :
    Log.Format.parse raw = .ok f ↔ ReadsFormat raw f := by
  unfold Log.Format.parse
  dsimp only
  split_ifs with json text <;> cases f <;> simp_all [ReadsFormat]

def format? (lookup : Lookup) (name : String) : Option Log.Format :=
  (text? lookup name).bind fun raw => (Log.Format.parse raw).toOption

theorem format?_eq_some_iff {f : Log.Format} :
    format? lookup name = some f ↔ ∃ raw, lookup name = some raw ∧ ReadsFormat raw f := by
  have named : ∀ raw, (Log.Format.parse raw).toOption = some f ↔ ReadsFormat raw f := by
    intro raw
    rw [← parse_eq_ok_iff]
    cases Log.Format.parse raw <;> simp [Except.toOption]
  simp only [format?, Option.bind_eq_some_iff, text?_eq_some_iff, named]
  constructor
  · rintro ⟨_, ⟨raw, found, rfl, -⟩, reads⟩
    exact ⟨raw, found, reads⟩
  · rintro ⟨raw, found, reads⟩
    exact ⟨raw, ⟨raw, found, rfl, reads.ne_empty⟩, reads⟩

/-! ## Steps -/

theorem runSteps_cons_fst (f : Step) (fs : List Step) (s : Settings) :
    (runSteps (f :: fs) s).1 = (runSteps fs (f s).1).1 := rfl

theorem byText_fst (t : Setting String) (s : Settings) :
    (byText lookup name t.put s).1 = t.put ((text? lookup name).getD (t.get s)) s := by
  unfold byText
  cases text? lookup name with
  | some v => rfl
  | none => exact (t.put_get s).symm

theorem byNumber_fst (t : Setting α) (ofNat : Nat → α) (w : Width) (low high : Nat)
    (s : Settings) :
    (byNumber lookup name w low high (fun n => t.put (ofNat n)) s).1 =
      t.put (((number? lookup name w low high).map ofNat).getD (t.get s)) s := by
  unfold byNumber
  cases found : lookup name with
  | none =>
    have silent : number? lookup name w low high = none := by rw [number?, found]; rfl
    rw [silent]
    exact (t.put_get s).symm
  | some raw =>
    cases number? lookup name w low high with
    | some n => rfl
    | none => exact (t.put_get s).symm

theorem byFormat_fst (s : Settings) :
    (byFormat lookup name s).1 =
      Setting.logFormat.put ((format? lookup name).getD (Setting.logFormat.get s)) s := by
  unfold byFormat format?
  cases text? lookup name with
  | none => rfl
  | some raw =>
    dsimp only [Option.bind_some]
    cases Log.Format.parse raw <;> rfl

/-! ## Variables that are looked at -/

section Congr

variable {lookup' : Lookup} (same : lookup' name = lookup name)
include same

theorem byText_congr : byText lookup' name = byText lookup name := by
  funext set s
  simp only [byText, text?, same]

theorem byNumber_congr : byNumber lookup' name = byNumber lookup name := by
  funext w low high set s
  simp only [byNumber, number?, same]

theorem byFormat_congr : byFormat lookup' name = byFormat lookup name := by
  funext s
  simp only [byFormat, text?, same]

end Congr

end Override

open Override

/-- Every setting takes the value of its variable, if that counts. -/
theorem Settings.override_eq (s : Settings) (lookup : Lookup) :
    (s.override lookup).1 =
      { listener :=
          { host := (text? lookup listenHost).getD s.listener.host
            port := ((number? lookup listenPort .u16 1 65535).map UInt16.ofNat).getD
              s.listener.port
            idleTimeoutSecs := ((number? lookup idleTimeoutSecs .u64 0 86400).map
              UInt64.ofNat).getD s.listener.idleTimeoutSecs
            messageCeiling := ((number? lookup messageCeiling .u32 1 1000).map
              UInt32.ofNat).getD s.listener.messageCeiling }
        dispatch :=
          { port := ((number? lookup dispatchPort .u16 1 65535).map UInt16.ofNat).getD
              s.dispatch.port
            maxConcurrency := ((number? lookup dispatchConcurrency .u64 1 4096).map fun n =>
              some (UInt64.ofNat n)).getD s.dispatch.maxConcurrency
            connectTimeoutMs := ((number? lookup connectTimeoutMs .u64 1 600000).map
              UInt64.ofNat).getD s.dispatch.connectTimeoutMs }
        logging :=
          { level := (text? lookup logLevel).getD s.logging.level
            format := (format? lookup logFormat).getD s.logging.format
            modules := s.logging.modules } } := by
  have steps : Override.steps lookup =
      [byText lookup listenHost Setting.listenHost.put,
       byNumber lookup listenPort .u16 1 65535 fun n => Setting.listenPort.put (UInt16.ofNat n),
       byNumber lookup idleTimeoutSecs .u64 0 86400 fun n =>
         Setting.idleTimeoutSecs.put (UInt64.ofNat n),
       byNumber lookup messageCeiling .u32 1 1000 fun n =>
         Setting.messageCeiling.put (UInt32.ofNat n),
       byNumber lookup dispatchPort .u16 1 65535 fun n =>
         Setting.dispatchPort.put (UInt16.ofNat n),
       byNumber lookup dispatchConcurrency .u64 1 4096 fun n =>
         Setting.maxConcurrency.put (some (UInt64.ofNat n)),
       byNumber lookup connectTimeoutMs .u64 1 600000 fun n =>
         Setting.connectTimeoutMs.put (UInt64.ofNat n),
       byText lookup logLevel Setting.logLevel.put,
       byFormat lookup logFormat] := rfl
  rw [Settings.override, steps]
  rw [runSteps_cons_fst, byText_fst Setting.listenHost,
    runSteps_cons_fst, byNumber_fst Setting.listenPort UInt16.ofNat,
    runSteps_cons_fst, byNumber_fst Setting.idleTimeoutSecs UInt64.ofNat,
    runSteps_cons_fst, byNumber_fst Setting.messageCeiling UInt32.ofNat,
    runSteps_cons_fst, byNumber_fst Setting.dispatchPort UInt16.ofNat,
    runSteps_cons_fst, byNumber_fst Setting.maxConcurrency fun n => some (UInt64.ofNat n),
    runSteps_cons_fst, byNumber_fst Setting.connectTimeoutMs UInt64.ofNat,
    runSteps_cons_fst, byText_fst Setting.logLevel,
    runSteps_cons_fst, byFormat_fst]
  rfl

/-- The variable of a setting decides about it: its value takes the place of the old one if it
counts. -/
def Setting.Governed {α : Type} (t : Setting α) : Prop :=
  ∃ given : Lookup → Option α, (∀ lookup x, given lookup = some x ↔ t.Overridden lookup x) ∧
    ∀ lookup s, t.get (s.override lookup).1 = (given lookup).getD (t.get s)

theorem Setting.governed_of_variable {α : Type} {t : Setting α} {name : String}
    {given : Lookup → Option α} (own : t.override = some name)
    (counts : ∀ lookup x, given lookup = some x ↔ ∃ raw, lookup name = some raw ∧ t.reads raw x)
    (value : ∀ lookup s, t.get (s.override lookup).1 = (given lookup).getD (t.get s)) :
    t.Governed := by
  exact ⟨given, fun lookup x => (counts lookup x).trans (overridden_iff own).symm, value⟩

/-- Every setting is decided by its own variable, and the one that has none stays as it is. -/
theorem Setting.governed : ∀ t ∈ Setting.all, t.2.Governed := by
  have value : ∀ {α : Type} (t : Setting α) (lookup : Lookup) (s : Settings),
      t.get (s.override lookup).1 = t.get _ :=
    fun t lookup s => congrArg t.get (s.override_eq lookup)
  simp only [Setting.all, List.forall_mem_cons]
  refine ⟨?_, ?_, ?_, ?_, ?_, ?_, ?_, ?_, ?_, ?_, List.forall_mem_nil _⟩
  · exact governed_of_variable rfl (fun _ _ => text?_eq_some_iff) (value _)
  · exact governed_of_variable rfl (fun _ _ => number16?_eq_some_iff (by decide)) (value _)
  · exact governed_of_variable rfl (fun _ _ => number64?_eq_some_iff (by decide)) (value _)
  · exact governed_of_variable rfl (fun _ _ => number32?_eq_some_iff (by decide)) (value _)
  · exact governed_of_variable rfl (fun _ _ => number16?_eq_some_iff (by decide)) (value _)
  · exact governed_of_variable rfl (fun _ _ => count?_eq_some_iff (by decide)) (value _)
  · exact governed_of_variable rfl (fun _ _ => number64?_eq_some_iff (by decide)) (value _)
  · exact governed_of_variable rfl (fun _ _ => text?_eq_some_iff) (value _)
  · exact governed_of_variable rfl (fun _ _ => format?_eq_some_iff) (value _)
  · exact ⟨fun _ => none, by simp [Overridden, logModules], value _⟩

namespace Setting.Governed

variable {α : Type} {t : Setting α} {lookup lookup' : Lookup} {s s' : Settings}
  (governed : t.Governed)
include governed

/-- What a setting becomes hangs on what it was and on its own variable. -/
theorem congr (agree : t.get s' = t.get s)
    (same : ∀ name, t.override = some name → lookup' name = lookup name) :
    t.get (s'.override lookup').1 = t.get (s.override lookup).1 := by
  obtain ⟨given, counts, value⟩ := governed
  have alike : given lookup' = given lookup := by
    ext x
    rw [counts, counts, overridden_congr same]
  rw [value, value, alike, agree]

theorem kept (silent : ∀ x, ¬ t.Overridden lookup x) :
    t.get (s.override lookup).1 = t.get s := by
  obtain ⟨given, counts, value⟩ := governed
  have nothing : given lookup = none :=
    Option.eq_none_iff_forall_ne_some.mpr fun x heard => silent x ((counts lookup x).mp heard)
  rw [value, nothing, Option.getD_none]

theorem of_overridden {x : α} (given : t.Overridden lookup x) :
    t.get (s.override lookup).1 = x := by
  obtain ⟨given', counts, value⟩ := governed
  rw [value, (counts lookup x).mpr given, Option.getD_some]

/-- A second time a setting becomes what it has become. -/
theorem again :
    t.get ((s.override lookup).1.override lookup).1 = t.get (s.override lookup).1 := by
  obtain ⟨given, -, value⟩ := governed
  rw [value, value]
  cases given lookup <;> rfl

end Setting.Governed

/-- Only the variables of settings are looked at. -/
theorem Settings.override_congr {lookup lookup' : Lookup}
    (same : ∀ name ∈ Override.names, lookup' name = lookup name) (s : Settings) :
    s.override lookup' = s.override lookup := by
  have steps : Override.steps lookup' = Override.steps lookup := by
    simp only [Override.names, List.forall_mem_cons] at same
    obtain ⟨host, port, idle, ceiling, dispatchPort, concurrency, timeout, level, format, -⟩ := same
    rw [Override.steps, byText_congr host, byNumber_congr port, byNumber_congr idle,
      byNumber_congr ceiling, byNumber_congr dispatchPort, byNumber_congr concurrency,
      byNumber_congr timeout, byText_congr level, byFormat_congr format]
    rfl
  rw [Settings.override, Settings.override, steps]

end StartSignal
