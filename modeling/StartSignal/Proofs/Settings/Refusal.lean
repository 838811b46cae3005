/-
# StartSignal.Proofs.Settings.Refusal -- variables that are refused

A number variable is refused when its text is no number inside its range, and the format
variable when its text is not empty and names no format: exactly when its setting has no value
for the text, and the text may not be passed over (`Setting.refused_iff`).  The settings are as
they are without a variable that is refused (`override_unset`).
-/
import Mathlib.Logic.Function.Basic
import StartSignal.Proofs.Settings.Mending

namespace StartSignal

open Function

namespace Override

open Log

/-- The number variables, with the least and the greatest number that counts. -/
def ranges : List (String × Nat × Nat) :=
  [(listenPort, 1, 65535), (idleTimeoutSecs, 0, 86400), (messageCeiling, 1, 1000),
   (dispatchPort, 1, 65535), (dispatchConcurrency, 1, 4096), (connectTimeoutMs, 1, 600000)]

def numbers : List String := ranges.map Prod.fst

def refusable : List String := logFormat :: ranges.map Prod.fst

/-- A variable is set to a text that does not count. -/
inductive Refused (lookup : Lookup) : String → Prop where
  | number {name raw : String} {low high : Nat} (ranged : (name, low, high) ∈ ranges)
      (found : lookup name = some raw) (bad : ∀ n, ¬ ReadsNumber low high raw n) :
      Refused lookup name
  | format {raw : String} (found : lookup logFormat = some raw) (stated : raw ≠ "")
      (bad : ∀ f, ¬ ReadsFormat raw f) : Refused lookup logFormat

/-- A record warns of a variable. -/
structure WarnsOf (name : String) (r : Record) : Prop where
  level : r.level = .warn
  key : r.field? "key" = some (.quoted name)

theorem range_unique {a b : String × Nat × Nat} (left : a ∈ ranges) (right : b ∈ ranges)
    (same : a.1 = b.1) : a = b := by
  have unique : ∀ a ∈ ranges, ∀ b ∈ ranges, a.1 = b.1 → a = b := by decide
  exact unique a left b right same

theorem format_not_ranged {low high : Nat} : (logFormat, low, high) ∉ ranges := by
  have free : logFormat ∉ ranges.map Prod.fst := by decide
  exact fun ranged => free (List.mem_map_of_mem ranged)

variable {lookup : Lookup} {name : String}

theorem Refused.mem (refused : Refused lookup name) : name ∈ refusable := by
  cases refused with
  | number ranged found bad => exact List.mem_cons_of_mem _ (List.mem_map_of_mem ranged)
  | format found stated bad => exact List.mem_cons_self

theorem refused_number_iff {low high : Nat} (ranged : (name, low, high) ∈ ranges) :
    Refused lookup name ↔
      ∃ raw, lookup name = some raw ∧ ∀ n, ¬ ReadsNumber low high raw n := by
  constructor
  · intro refused
    cases refused with
    | number ranged' found bad =>
      cases range_unique ranged ranged' rfl
      exact ⟨_, found, bad⟩
    | format found stated bad => exact absurd ranged format_not_ranged
  · rintro ⟨raw, found, bad⟩
    exact .number ranged found bad

theorem refused_format_iff :
    Refused lookup logFormat ↔
      ∃ raw, lookup logFormat = some raw ∧ raw ≠ "" ∧ ∀ f, ¬ ReadsFormat raw f := by
  constructor
  · intro refused
    cases refused with
    | number ranged found bad => exact absurd ranged format_not_ranged
    | format found stated bad => exact ⟨_, found, stated, bad⟩
  · rintro ⟨raw, found, stated, bad⟩
    exact .format found stated bad

theorem number?_eq_none_iff {w : Width} {raw : String} {low high : Nat}
    (unsigned : w.signed = false) (fits : (high : Int) ≤ w.high) (found : lookup name = some raw) :
    number? lookup name w low high = none ↔ ∀ n, ¬ ReadsNumber low high raw n := by
  simp [Option.eq_none_iff_forall_ne_some, number?_eq_some_iff unsigned fits, found]

theorem Refused.number?_eq_none (refused : Refused lookup name) {low high : Nat}
    (ranged : (name, low, high) ∈ ranges) {w : Width} (unsigned : w.signed = false)
    (fits : (high : Int) ≤ w.high) : number? lookup name w low high = none := by
  obtain ⟨raw, found, bad⟩ := (refused_number_iff ranged).mp refused
  exact (number?_eq_none_iff unsigned fits found).mpr bad

theorem Refused.of_number? {w : Width} {raw : String} {low high : Nat}
    (ranged : (name, low, high) ∈ ranges) (unsigned : w.signed = false)
    (fits : (high : Int) ≤ w.high) (found : lookup name = some raw)
    (silent : number? lookup name w low high = none) : Refused lookup name :=
  .number ranged found ((number?_eq_none_iff unsigned fits found).mp silent)

/-- A variable that is refused stands for none of the others. -/
theorem unset_other (refused : Refused lookup name) {other : String} (free : other ∉ refusable) :
    update lookup name none other = lookup other := by
  refine update_of_ne ?_ _ _
  rintro rfl
  exact free refused.mem

end Override

open Override

variable {lookup : Lookup} {name : String}

/-! ## Settings that reject their variables -/

namespace Setting

variable {α : Type} {t : Setting α}

/-- A variable is set to a text without a value for the setting.  Of an empty text that is
said only where a number is due. -/
def Rejects (t : Setting α) (lookup : Lookup) (name : String) : Prop :=
  ∃ raw, lookup name = some raw ∧ (∀ x, ¬ t.reads raw x) ∧ (raw = "" → name ∈ numbers)

theorem refused_iff_of_text (free : name ∉ refusable)
    (read : ∀ raw, raw ≠ "" → ∃ x, t.reads raw x) : Refused lookup name ↔ t.Rejects lookup name := by
  constructor
  · exact fun refused => absurd refused.mem free
  · rintro ⟨raw, -, unread, passed⟩
    by_cases empty : raw = ""
    · exact absurd (List.mem_cons_of_mem _ (passed empty)) free
    · obtain ⟨x, reads⟩ := read raw empty
      exact absurd reads (unread x)

theorem refused_iff_of_number {w : Width} {low high : Nat} {ofNat : Nat → α}
    (counts : ∀ x, (number? lookup name w low high).map ofNat = some x ↔
      ∃ raw, lookup name = some raw ∧ t.reads raw x)
    (ranged : (name, low, high) ∈ ranges) (unsigned : w.signed = false)
    (fits : (high : Int) ≤ w.high) : Refused lookup name ↔ t.Rejects lookup name := by
  have due : name ∈ numbers := List.mem_map_of_mem ranged
  rw [refused_number_iff ranged]
  refine exists_congr fun raw => and_congr_right fun found => ?_
  have unread : (number? lookup name w low high).map ofNat = none ↔ ∀ x, ¬ t.reads raw x := by
    simp [Option.eq_none_iff_forall_ne_some, counts, found]
  rw [← number?_eq_none_iff unsigned fits found, ← unread, Option.map_eq_none_iff]
  simp [due]

theorem refused_iff_of_format :
    Refused lookup Override.logFormat ↔ logFormat.Rejects lookup Override.logFormat := by
  have text : Override.logFormat ∉ numbers := by decide
  simp only [refused_format_iff, Rejects, text, imp_false, logFormat, ne_eq, and_comm]

/-- A variable is refused exactly if its setting rejects it. -/
theorem refused_iff : ∀ t ∈ Setting.all, ∀ name, t.2.override = some name →
    (Refused lookup name ↔ t.2.Rejects lookup name) := by
  simp only [Setting.all, List.forall_mem_cons]
  refine ⟨?_, ?_, ?_, ?_, ?_, ?_, ?_, ?_, ?_, ?_, List.forall_mem_nil _⟩ <;> rintro _ ⟨⟩
  · exact refused_iff_of_text (by decide) fun raw stated => ⟨raw, rfl, stated⟩
  · exact refused_iff_of_number (fun _ => number16?_eq_some_iff (by decide)) (by decide) rfl
      (by decide)
  · exact refused_iff_of_number (fun _ => number64?_eq_some_iff (by decide)) (by decide) rfl
      (by decide)
  · exact refused_iff_of_number (fun _ => number32?_eq_some_iff (by decide)) (by decide) rfl
      (by decide)
  · exact refused_iff_of_number (fun _ => number16?_eq_some_iff (by decide)) (by decide) rfl
      (by decide)
  · exact refused_iff_of_number (fun _ => count?_eq_some_iff (by decide)) (by decide) rfl
      (by decide)
  · exact refused_iff_of_number (fun _ => number64?_eq_some_iff (by decide)) (by decide) rfl
      (by decide)
  · exact refused_iff_of_text (by decide) fun raw stated => ⟨raw, rfl, stated⟩
  · exact refused_iff_of_format

theorem not_overridden_of_rejects (own : t.override = some name) (rejects : t.Rejects lookup name)
    (x : α) : ¬ t.Overridden lookup x := by
  intro given
  obtain ⟨raw, found, reads⟩ := (overridden_iff own).mp given
  obtain ⟨raw', found', unread, -⟩ := rejects
  cases found.symm.trans found'
  exact unread x reads

end Setting

/-! ## Without a variable that is refused -/

namespace Settings

variable {path : Path} {file : FileState}

/-- Settings are what they are without a variable that is refused. -/
theorem override_unset (refused : Refused lookup name) (s : Settings) :
    (s.override (update lookup name none)).1 = (s.override lookup).1 := by
  refine eq_of_all fun t member => ?_
  have governed := Setting.governed t member
  by_cases own : t.2.override = some name
  · -- The variable is the setting's own, and counts neither way.
    have rejects := (Setting.refused_iff t member name own).mp refused
    have unset : ∀ x, ¬ t.2.Overridden (update lookup name none) x := by
      intro x given
      obtain ⟨raw, found, -⟩ := (Setting.overridden_iff own).mp given
      rw [update_self] at found
      cases found
    rw [governed.kept unset, governed.kept (Setting.not_overridden_of_rejects own rejects)]
  · refine governed.congr rfl fun other own' => update_of_ne ?_ _ _
    rintro rfl
    exact own own'

theorem load_unset (refused : Refused lookup name) :
    (load path file (update lookup name none)).1 = (load path file lookup).1 := by
  simp only [load_eq, override_unset refused]

end Settings

end StartSignal
