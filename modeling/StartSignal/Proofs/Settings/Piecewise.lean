/-
# StartSignal.Proofs.Settings.Piecewise -- overriding one setting at a time

What the environment makes of a setting hangs on what the setting was and on its own variable
(`Setting.Governed.congr`), and it makes the same of what it has made.  The ten settings are all
there is (`eq_of_all`), so what holds of each of them holds of the whole.  What is reported is
told variable by variable: of one that its setting rejects there is a warning, and of any other
there is none.

Main result: `override_piecewise`.
-/
import StartSignal.Proofs.Settings.Warnings

namespace StartSignal

open Override

namespace Settings

/-- What overriding comes to, setting by setting and variable by variable. -/
structure Piecewise (lookup : Lookup) (s : Settings) : Prop where
  /-- Done again it comes to the same, and reports the same. -/
  again : (s.override lookup).1.override lookup = s.override lookup
  /-- A setting hangs on what it was and on its own variable, and on nothing else. -/
  apart : ∀ t ∈ Setting.all, ∀ s' lookup', t.2.get s' = t.2.get s →
    (∀ name, t.2.override = some name → lookup' name = lookup name) →
    t.2.get (s'.override lookup').1 = t.2.get (s.override lookup).1
  /-- A setting stays as it is unless its variable has a value for it. -/
  kept : ∀ t ∈ Setting.all, ¬ t.2.IsOverridden lookup → t.2.get (s.override lookup).1 = t.2.get s
  /-- The levels of modules stay. -/
  modules : (s.override lookup).1.logging.modules = s.logging.modules
  /-- A variable is refused if its setting rejects it, and only then. -/
  refused : ∀ t ∈ Setting.all, ∀ name, t.2.override = some name →
    (Refused lookup name ↔ t.2.Rejects lookup name)
  /-- A variable that is refused is warned of once. -/
  warned : ∀ name, Refused lookup name →
    ∃ r, WarnsOf name r ∧ Rejection lookup name r ∧ about name (s.override lookup).2 = [r]
  /-- Nothing is reported of a variable that is not, nor anything else. -/
  silent : ∀ name, ¬ Refused lookup name → about name (s.override lookup).2 = []
  only : ∀ r ∈ (s.override lookup).2, ∃ name, Rejection lookup name r
  /-- An empty text has no value for a setting.  It is refused where a number is due, and
  passed over elsewhere. -/
  empty : ∀ t ∈ Setting.all, ∀ name, t.2.override = some name → lookup name = some "" →
    ¬ t.2.IsOverridden lookup ∧ (Refused lookup name ↔ name ∈ numbers)
  /-- Settings that pass the check pass it afterwards. -/
  valid : s.validate = .ok () → (s.override lookup).1.validate = .ok ()

/-- **The environment overrides each setting by itself, and once is as good as twice.** -/
theorem override_piecewise (lookup : Lookup) (s : Settings) : Piecewise lookup s := by
  constructor
  case again =>
    refine Prod.ext (eq_of_all fun t member => ?_) (override_snd_congr _ _ _)
    exact (Setting.governed t member).again
  case apart =>
    intro t member s' lookup' agree same
    exact (Setting.governed t member).congr agree same
  case kept =>
    intro t member silent
    exact (Setting.governed t member).kept fun x given => silent ⟨x, given⟩
  case modules => rw [override_eq]
  case refused => exact Setting.refused_iff
  case warned =>
    intro name refused
    obtain ⟨r, rejection, alone⟩ := refused.exists_about s
    exact ⟨r, rejection.warnsOf, rejection, alone⟩
  case silent => exact fun name accepted => about_override_eq_nil accepted s
  case only => exact fun r told => exists_rejection_of_mem_override told
  case empty =>
    intro t member name own found
    have unread : ∀ x, ¬ t.2.reads "" x :=
      fun x reads => Setting.ne_empty_of_reads t member "" x reads rfl
    refine ⟨?_, ?_⟩
    · rintro ⟨x, given⟩
      obtain ⟨raw, found', reads⟩ := (Setting.overridden_iff own).mp given
      cases found.symm.trans found'
      exact unread x reads
    · rw [Setting.refused_iff t member name own]
      constructor
      · rintro ⟨raw, found', -, due⟩
        cases found.symm.trans found'
        exact due rfl
      · exact fun due => ⟨"", found, unread, fun _ => due⟩
  case valid =>
    simp only [validate_eq_ok_iff, ne_eq, ceiling_override, concurrency_override]
    rintro ⟨ceiling, concurrency⟩
    exact ⟨fun zero => ceiling zero.1, fun zero => concurrency zero.1⟩

end Settings

end StartSignal
