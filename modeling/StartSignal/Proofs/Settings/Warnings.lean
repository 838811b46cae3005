/-
# StartSignal.Proofs.Settings.Warnings -- what is reported of variables that are refused

Each step of the overriding speaks of its own variable only (`steps_answer`), and no variable
has two steps.  So the overriding makes one warning of every variable that is refused
(`Refused.exists_about`) and none of any other (`about_override_eq_nil`), whatever the settings
are (`override_snd_congr`).
-/
import Mathlib.Data.List.Forall2
import StartSignal.Proofs.Settings.Refusal

namespace StartSignal

namespace Override

open Log

variable {lookup : Lookup} {name : String}

theorem parse_eq_error_iff {raw lowered : String} :
    Format.parse raw = .error lowered ↔ Text.lower raw = lowered ∧ ∀ f, ¬ ReadsFormat raw f := by
  have unread : (∃ e, Format.parse raw = .error e) ↔ ∀ f, ¬ ReadsFormat raw f := by
    simp only [← parse_eq_ok_iff]
    cases Format.parse raw <;> simp
  rw [← unread]
  unfold Format.parse
  dsimp only
  split_ifs <;> simp

/-! ## Rejections -/

/-- The record that the loading makes of a variable that it refuses. -/
inductive Rejection (lookup : Lookup) : String → Record → Prop where
  | number {name raw : String} {low high : Nat} (ranged : (name, low, high) ∈ ranges)
      (found : lookup name = some raw) (bad : ∀ n, ¬ ReadsNumber low high raw n) :
      Rejection lookup name (rejectedNumber name raw low high)
  | format {raw : String} (found : lookup logFormat = some raw) (stated : raw ≠ "")
      (bad : ∀ f, ¬ ReadsFormat raw f) :
      Rejection lookup logFormat (rejectedFormat logFormat raw (Text.lower raw))

theorem Rejection.refused {r : Record} (rejection : Rejection lookup name r) :
    Refused lookup name := by
  cases rejection with
  | number ranged found bad => exact .number ranged found bad
  | format found stated bad => exact .format found stated bad

theorem Rejection.warnsOf {r : Record} (rejection : Rejection lookup name r) : WarnsOf name r := by
  cases rejection <;> exact ⟨rfl, rfl⟩

theorem Rejection.unique {r r' : Record} (left : Rejection lookup name r)
    (right : Rejection lookup name r') : r = r' := by
  cases left with
  | number ranged found bad =>
    cases right with
    | number ranged' found' bad' =>
      cases range_unique ranged ranged' rfl
      cases found.symm.trans found'
      rfl
    | format found' stated bad' => exact absurd ranged format_not_ranged
  | format found stated bad =>
    cases right with
    | number ranged found' bad' => exact absurd ranged format_not_ranged
    | format found' stated' bad' =>
      cases found.symm.trans found'
      rfl

/-- The records of a log that are about a variable. -/
def about (name : String) (log : List Record) : List Record :=
  log.filter fun r => r.field? "key" = some (.quoted name)

@[simp]
theorem about_append (name : String) (log log' : List Record) :
    about name (log ++ log') = about name log ++ about name log' :=
  List.filter_append _ _

/-- What is said of a variable: its rejection if it is refused, and nothing if not. -/
inductive Answers (lookup : Lookup) (name : String) : List Record → Prop where
  | refused {r : Record} (rejection : Rejection lookup name r) : Answers lookup name [r]
  | silent (accepted : ¬ Refused lookup name) : Answers lookup name []

namespace Answers

variable {log : List Record}

theorem about_self (answers : Answers lookup name log) : about name log = log := by
  cases answers with
  | refused rejection => simp [about, rejection.warnsOf.key]
  | silent accepted => rfl

theorem about_other (answers : Answers lookup name log) {other : String} (ne : other ≠ name) :
    about other log = [] := by
  cases answers with
  | refused rejection => simp [about, rejection.warnsOf.key, ne.symm]
  | silent accepted => rfl

theorem exists_eq_singleton (answers : Answers lookup name log) (refused : Refused lookup name) :
    ∃ r, Rejection lookup name r ∧ log = [r] := by
  cases answers with
  | refused rejection => exact ⟨_, rejection, rfl⟩
  | silent accepted => exact absurd refused accepted

theorem eq_nil (answers : Answers lookup name log) (accepted : ¬ Refused lookup name) :
    log = [] := by
  cases answers with
  | refused rejection => exact absurd rejection.refused accepted
  | silent _ => rfl

theorem unique (left : Answers lookup name log) {log' : List Record}
    (right : Answers lookup name log') : log = log' := by
  cases left with
  | refused rejection =>
    obtain ⟨r, rejection', rfl⟩ := right.exists_eq_singleton rejection.refused
    rw [rejection.unique rejection']
  | silent accepted => exact (right.eq_nil accepted).symm

end Answers

section Steps

variable {s : Settings}

theorem byText_answers {set : String → Settings → Settings} (free : name ∉ refusable) :
    Answers lookup name (byText lookup name set s).2 := by
  have quiet : (byText lookup name set s).2 = [] := by
    unfold byText
    split <;> rfl
  rw [quiet]
  exact .silent fun refused => free refused.mem

theorem byNumber_answers {w : Width} {low high : Nat} {set : Nat → Settings → Settings}
    (ranged : (name, low, high) ∈ ranges) (unsigned : w.signed = false)
    (fits : (high : Int) ≤ w.high) :
    Answers lookup name (byNumber lookup name w low high set s).2 := by
  unfold byNumber
  cases found : lookup name with
  | none =>
    refine .silent fun refused => ?_
    obtain ⟨raw, set, -⟩ := (refused_number_iff ranged).mp refused
    cases found.symm.trans set
  | some raw =>
    dsimp only
    cases counts : number? lookup name w low high with
    | none =>
      have bad := (number?_eq_none_iff unsigned fits found).mp counts
      exact .refused (.number ranged found bad)
    | some n =>
      refine .silent fun refused => ?_
      cases counts.symm.trans (refused.number?_eq_none ranged unsigned fits)

theorem byFormat_answers : Answers lookup logFormat (byFormat lookup logFormat s).2 := by
  unfold byFormat
  cases heard : text? lookup logFormat with
  | none =>
    refine .silent fun refused => ?_
    obtain ⟨raw, found, stated, -⟩ := refused_format_iff.mp refused
    cases heard.symm.trans (text?_eq_some_iff.mpr ⟨raw, found, rfl, stated⟩)
  | some raw =>
    obtain ⟨raw, found, rfl, stated⟩ := text?_eq_some_iff.mp heard
    dsimp only
    cases parsed : Format.parse raw with
    | error lowered =>
      obtain ⟨rfl, bad⟩ := parse_eq_error_iff.mp parsed
      exact .refused (.format found stated bad)
    | ok f =>
      refine .silent fun refused => ?_
      obtain ⟨_, found', -, bad⟩ := refused_format_iff.mp refused
      cases found.symm.trans found'
      exact bad f (parse_eq_ok_iff.mp parsed)

end Steps

/-- Each step speaks of its own variable, whatever the settings are. -/
theorem steps_answer (lookup : Lookup) :
    List.Forall₂ (fun name f => ∀ s, Answers lookup name (f s).2) names (steps lookup) := by
  refine .cons (fun _ => byText_answers (by decide)) ?_
  refine .cons (fun _ => byNumber_answers (by decide) rfl (by decide)) ?_
  refine .cons (fun _ => byNumber_answers (by decide) rfl (by decide)) ?_
  refine .cons (fun _ => byNumber_answers (by decide) rfl (by decide)) ?_
  refine .cons (fun _ => byNumber_answers (by decide) rfl (by decide)) ?_
  refine .cons (fun _ => byNumber_answers (by decide) rfl (by decide)) ?_
  refine .cons (fun _ => byNumber_answers (by decide) rfl (by decide)) ?_
  refine .cons (fun _ => byText_answers (by decide)) ?_
  exact .cons (fun _ => byFormat_answers) .nil

section Run

variable {ns : List String} {fs : List Step}
  (speak : List.Forall₂ (fun name f => ∀ s, Answers lookup name (f s).2) ns fs)
include speak

theorem about_runSteps_eq_nil (free : name ∉ ns) (s : Settings) :
    about name (runSteps fs s).2 = [] := by
  induction speak generalizing s with
  | nil => rfl
  | @cons own f ns fs first _ ih =>
    have ne : name ≠ own := List.ne_of_not_mem_cons free
    show about name ((f s).2 ++ (runSteps fs (f s).1).2) = []
    rw [about_append, (first s).about_other ne, ih (List.not_mem_of_not_mem_cons free),
      List.append_nil]

theorem runSteps_answers (once : ns.Nodup) (member : name ∈ ns) (s : Settings) :
    Answers lookup name (about name (runSteps fs s).2) := by
  induction speak generalizing s with
  | nil => cases member
  | @cons own f ns fs first rest ih =>
    obtain ⟨free, once⟩ := List.nodup_cons.mp once
    show Answers lookup name (about name ((f s).2 ++ (runSteps fs (f s).1).2))
    rw [about_append]
    rcases List.mem_cons.mp member with rfl | later
    · rw [(first s).about_self, about_runSteps_eq_nil rest free, List.append_nil]
      exact first s
    · have ne : name ≠ own := by
        rintro rfl
        exact free later
      rw [(first s).about_other ne, List.nil_append]
      exact ih once later _

theorem runSteps_snd_congr (s s' : Settings) : (runSteps fs s).2 = (runSteps fs s').2 := by
  induction speak generalizing s s' with
  | nil => rfl
  | @cons own f ns fs first _ ih =>
    show (f s).2 ++ (runSteps fs (f s).1).2 = (f s').2 ++ (runSteps fs (f s').1).2
    rw [(first s).unique (first s'), ih (f s).1 (f s').1]

theorem exists_rejection_of_mem_runSteps {r : Record} {s : Settings}
    (told : r ∈ (runSteps fs s).2) : ∃ name, Rejection lookup name r := by
  induction speak generalizing s with
  | nil => cases told
  | @cons own f ns fs first _ ih =>
    rcases List.mem_append.mp told with now | later
    · have answers := first s
      generalize (f s).2 = log at answers now
      cases answers with
      | refused rejection =>
        cases List.mem_singleton.mp now
        exact ⟨own, rejection⟩
      | silent accepted => cases now
    · exact ih later

end Run

/-- Of every variable the log has its rejection and nothing else. -/
theorem override_answers (lookup : Lookup) (s : Settings) (name : String) :
    Answers lookup name (about name (s.override lookup).2) := by
  by_cases member : name ∈ names
  · exact runSteps_answers (steps_answer lookup) (by decide) member s
  · rw [Settings.override, about_runSteps_eq_nil (steps_answer lookup) member]
    have heard : ∀ name ∈ refusable, name ∈ names := by decide
    exact .silent fun refused => member (heard name refused.mem)

/-- What is reported does not hang on the settings. -/
theorem override_snd_congr (lookup : Lookup) (s s' : Settings) :
    (s.override lookup).2 = (s'.override lookup).2 :=
  runSteps_snd_congr (steps_answer lookup) s s'

theorem exists_rejection_of_mem_override {s : Settings} {r : Record}
    (told : r ∈ (s.override lookup).2) : ∃ name, Rejection lookup name r :=
  exists_rejection_of_mem_runSteps (steps_answer lookup) told

/-- A variable that is refused is warned of once. -/
theorem Refused.exists_about (refused : Refused lookup name) (s : Settings) :
    ∃ r, Rejection lookup name r ∧ about name (s.override lookup).2 = [r] :=
  (override_answers lookup s name).exists_eq_singleton refused

theorem about_override_eq_nil (accepted : ¬ Refused lookup name) (s : Settings) :
    about name (s.override lookup).2 = [] :=
  (override_answers lookup s name).eq_nil accepted

end Override

open Override

/-- Loading a file that holds settings warns of every variable that is refused. -/
theorem Settings.load_warns {path : Path} {file : FileState} {lookup : Lookup} {name : String}
    (refused : Refused lookup name) {s : Settings} (made : ofFile file = .ok s) :
    ∃ r ∈ (load path file lookup).2, WarnsOf name r := by
  obtain ⟨r, rejection, alone⟩ := refused.exists_about s
  have told : r ∈ (s.override lookup).2 :=
    List.mem_of_mem_filter (alone ▸ List.mem_singleton_self r)
  refine ⟨r, ?_, rejection.warnsOf⟩
  unfold load
  rw [made]
  dsimp only
  split <;> exact List.mem_append_right _ told

end StartSignal
