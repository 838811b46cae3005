/-
# StartSignal.Proofs.Interleaved -- two lists put together

A list can be parted by a test into what passes and what does not, and neither part is
disturbed in its order.  So it is the two parts put together again (`Interleaved.filter_filter`),
and it can be parted so in one way only (`Interleaved.eq_filter`).
-/

namespace StartSignal

/-- A list is put together from two others, each of which keeps its order in it. -/
inductive Interleaved {α : Type} : List α → List α → List α → Prop where
  | nil : Interleaved [] [] []
  | left {x : α} {xs ys zs : List α} (rest : Interleaved xs ys zs) :
    Interleaved (x :: xs) ys (x :: zs)
  | right {y : α} {xs ys zs : List α} (rest : Interleaved xs ys zs) :
    Interleaved xs (y :: ys) (y :: zs)

namespace Interleaved

variable {α : Type} {xs ys zs : List α} {p : α → Bool}

theorem length_add (together : Interleaved xs ys zs) : xs.length + ys.length = zs.length := by
  induction together with
  | nil => rfl
  | left rest ih =>
    simp only [List.length_cons]
    omega
  | right rest ih =>
    simp only [List.length_cons]
    omega

/-- A list is put together from what passes a test and what does not. -/
theorem filter_filter (p : α → Bool) (l : List α) :
    Interleaved (l.filter p) (l.filter fun x => !p x) l := by
  induction l with
  | nil => exact .nil
  | cons x l ih =>
    cases passes : p x with
    | true =>
      rw [List.filter_cons_of_pos passes, List.filter_cons_of_neg (by simp [passes])]
      exact .left ih
    | false =>
      rw [List.filter_cons_of_neg (by simp [passes]), List.filter_cons_of_pos (by simp [passes])]
      exact .right ih

/-- Only one way of parting a list leaves what passes a test on the one side. -/
theorem eq_filter (together : Interleaved xs ys zs) (pass : ∀ x ∈ xs, p x = true)
    (fail : ∀ y ∈ ys, p y = false) : xs = zs.filter p ∧ ys = zs.filter fun z => !p z := by
  induction together with
  | nil => exact ⟨rfl, rfl⟩
  | @left x _ _ _ rest ih =>
    obtain ⟨passes, others⟩ := List.forall_mem_cons.mp pass
    obtain ⟨same, same'⟩ := ih others fail
    rw [List.filter_cons_of_pos passes, List.filter_cons_of_neg (by simp [passes])]
    exact ⟨congrArg (x :: ·) same, same'⟩
  | @right y _ _ _ rest ih =>
    obtain ⟨fails, others⟩ := List.forall_mem_cons.mp fail
    obtain ⟨same, same'⟩ := ih pass others
    rw [List.filter_cons_of_neg (by simp [fails]), List.filter_cons_of_pos (by simp [fails])]
    exact ⟨same, congrArg (y :: ·) same'⟩

end Interleaved

end StartSignal
