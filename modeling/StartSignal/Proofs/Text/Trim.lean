/-
# StartSignal.Proofs.Text.Trim -- what trimming leaves

A text is tight when it has no blank at either end (`Tight`); blanks inside it do not matter.
Trimming takes blanks away from both ends (`exists_trim`) and leaves a tight text
(`tight_trim`).  There is only one way of doing that: a tight text between blanks is what
trimming leaves (`trim_surrounded`).
-/
import StartSignal.Text.Basic

namespace StartSignal.Text

structure Tight (cs : List Char) : Prop where
  first : ∀ c ∈ cs.head?, isBlank c = false
  last : ∀ c ∈ cs.getLast?, isBlank c = false

theorem tight_of_solid {cs : List Char} (solid : ∀ c ∈ cs, isBlank c = false) : Tight cs :=
  ⟨fun c first => solid c (List.mem_of_head? first),
    fun c last => solid c (List.mem_of_getLast? last)⟩

/-! ## Either end -/

theorem trimStart_append {before : List Char} (blank : ∀ c ∈ before, isBlank c = true)
    (rest : List Char) : trimStart (before ++ rest) = trimStart rest :=
  List.dropWhile_append_of_pos blank

theorem trimEnd_append (rest : List Char) {after : List Char}
    (blank : ∀ c ∈ after, isBlank c = true) : trimEnd (rest ++ after) = trimEnd rest := by
  have blank' : ∀ c ∈ after.reverse, isBlank c = true := by simpa using blank
  rw [trimEnd, List.reverse_append, List.dropWhile_append_of_pos blank', trimEnd]

theorem trimStart_blank {cs : List Char} (blank : ∀ c ∈ cs, isBlank c = true) :
    trimStart cs = [] := by
  have dropped := trimStart_append blank []
  rwa [List.append_nil] at dropped

theorem dropWhile_of_first {cs : List Char} (first : ∀ c ∈ cs.head?, isBlank c = false) :
    cs.dropWhile isBlank = cs := by
  cases cs with
  | nil => rfl
  | cons c cs => exact List.dropWhile_cons_of_neg (by simp [first c rfl])

theorem first_dropWhile (cs : List Char) :
    ∀ c ∈ (cs.dropWhile isBlank).head?, isBlank c = false := by
  intro c first
  have stopped := List.head?_dropWhile_not isBlank cs
  rw [Option.mem_def.mp first] at stopped
  exact stopped

/-! ## Both ends -/

/-- What trimming drops is blank. -/
theorem exists_trim (cs : List Char) : ∃ before after, cs = before ++ trim cs ++ after ∧
    (∀ c ∈ before, isBlank c = true) ∧ ∀ c ∈ after, isBlank c = true := by
  refine ⟨cs.takeWhile isBlank, ((trimStart cs).reverse.takeWhile isBlank).reverse, ?_, ?_, ?_⟩
  · rw [trim, trimEnd, List.append_assoc, ← List.reverse_append, List.takeWhile_append_dropWhile,
      List.reverse_reverse, trimStart, List.takeWhile_append_dropWhile]
  · exact fun c member => List.all_eq_true.mp List.all_takeWhile c member
  · exact fun c member => List.all_eq_true.mp List.all_takeWhile c (List.mem_reverse.mp member)

theorem tight_trim (cs : List Char) : Tight (trim cs) where
  first := by
    -- What is left after the end has been trimmed begins as it did before.
    have whole : trimStart cs = trim cs ++ ((trimStart cs).reverse.takeWhile isBlank).reverse := by
      rw [trim, trimEnd, ← List.reverse_append, List.takeWhile_append_dropWhile,
        List.reverse_reverse]
    intro c first
    apply first_dropWhile cs c
    show c ∈ (trimStart cs).head?
    rw [whole, List.head?_append, Option.mem_def.mp first]
    rfl
  last := by
    intro c last
    rw [trim, trimEnd, List.getLast?_reverse] at last
    exact first_dropWhile _ c last

/-- Blanks around a tight text are trimmed, and nothing else is. -/
theorem trim_surrounded {before cs after : List Char}
    (blankBefore : ∀ c ∈ before, isBlank c = true) (tight : Tight cs)
    (blankAfter : ∀ c ∈ after, isBlank c = true) : trim (before ++ cs ++ after) = cs := by
  have last : ∀ c ∈ cs.reverse.head?, isBlank c = false := by
    rw [List.head?_reverse]
    exact tight.last
  have untouched : trimEnd cs = cs := by
    rw [trimEnd, dropWhile_of_first last, List.reverse_reverse]
  rw [List.append_assoc, trim, trimStart_append blankBefore]
  cases cs with
  | nil => rw [List.nil_append, trimStart_blank blankAfter, untouched]
  | cons c cs =>
    have begun : trimStart (c :: cs ++ after) = c :: cs ++ after :=
      dropWhile_of_first fun d first => tight.first d first
    rw [begun, trimEnd_append _ blankAfter, untouched]

theorem trim_eq_nil_iff {cs : List Char} : trim cs = [] ↔ ∀ c ∈ cs, isBlank c = true := by
  constructor
  · intro nothing
    obtain ⟨before, after, whole, blankBefore, blankAfter⟩ := exists_trim cs
    rw [nothing, List.append_nil] at whole
    rw [whole]
    exact List.forall_mem_append.mpr ⟨blankBefore, blankAfter⟩
  · intro blank
    rw [trim, trimStart_blank blank]
    rfl

end StartSignal.Text
