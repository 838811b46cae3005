/-
# StartSignal.Proofs.Json.Merge -- what is found in members laid over others

Members laid over others are found under their names unless they are null: merged with what
was there, or as they are where nothing was.  Every other member is found as before
(`get?_mergeMembers`).  The merge keeps the order of the names.
-/
import StartSignal.Json.Merge
import StartSignal.Proofs.Json.Ordered

namespace StartSignal.Json

/-- The value of a name among members that are to be laid over others; `none` also when it
is null. -/
def override? (overrides : Members Json) (key : String) : Option Json :=
  (overrides.get? key).filter fun v => !v.isNull

theorem ordered_mergeMembers {ms : Members Json} (ordered : ms.Ordered)
    (overrides : Members Json) : (mergeMembers ms overrides).Ordered := by
  induction overrides generalizing ms with
  | nil =>
    rw [mergeMembers]
    exact ordered
  | cons m overrides ih =>
    rw [mergeMembers_cons]
    split
    · exact ih ordered
    · exact ih (ordered.insert _ _)

/-- What is found under a name after a merge. -/
theorem get?_mergeMembers {overrides : Members Json} (unique : overrides.Ordered)
    (ms : Members Json) (key : String) :
    (mergeMembers ms overrides).get? key =
      match override? overrides key with
      | some v => some (mergeOption (ms.get? key) v)
      | none => ms.get? key := by
  induction overrides generalizing ms with
  | nil =>
    rw [mergeMembers]
    rfl
  | cons m overrides ih =>
    obtain ⟨name, v⟩ := m
    obtain ⟨above, rest⟩ := List.pairwise_cons.mp unique
    rw [mergeMembers_cons]
    by_cases here : name = key
    · -- The name does not come again.
      have last : override? overrides key = none := by
        rw [override?, Members.get?_eq_none fun n later same => ?_]
        · rfl
        · exact String.lt_irrefl _ (here ▸ same ▸ above n later)
      have found : override? ((name, v) :: overrides) key = if v.isNull then none else some v := by
        rw [override?, Members.get?, if_pos here]
        cases null : v.isNull <;> simp [null]
      rw [found]
      cases null : v.isNull with
      | true =>
        rw [if_pos rfl, ih rest, last, if_pos rfl]
      | false =>
        rw [if_neg Bool.false_ne_true, ih rest, last, if_neg Bool.false_ne_true, here]
        exact Members.get?_insert_self _ _ _
    · have other : override? ((name, v) :: overrides) key = override? overrides key := by
        rw [override?, Members.get?, if_neg here, override?]
      rw [other]
      split
      · exact ih rest ms
      · rw [ih rest, Members.get?_insert_ne _ _ (Ne.symm here)]

theorem override?_eq_some_iff {overrides : Members Json} {key : String} {v : Json} :
    override? overrides key = some v ↔ overrides.get? key = some v ∧ v.isNull = false := by
  simp [override?, Option.filter_eq_some_iff]

/-- A name with a value that is not null has that value laid over what it had. -/
theorem get?_merge_laid (ms : Members Json) {overrides : Members Json}
    (unique : overrides.Ordered) {key : String} {v : Json}
    (found : (Json.object overrides).get? key = some v) (solid : v.isNull = false) :
    (merge (.object ms) (.object overrides)).get? key =
      some (merge (((Json.object ms).get? key).getD .null) v) := by
  have held : override? overrides key = some v := override?_eq_some_iff.mpr ⟨found, solid⟩
  rw [merge_object, Json.get?, get?_mergeMembers unique, held, ← mergeOption_eq]
  rfl

/-- A name without a value, or with null, keeps what it had. -/
theorem get?_merge_silent (ms : Members Json) {overrides : Members Json}
    (unique : overrides.Ordered) {key : String}
    (silent : ∀ v, (Json.object overrides).get? key = some v → v.isNull = true) :
    (merge (.object ms) (.object overrides)).get? key = (Json.object ms).get? key := by
  have nothing : override? overrides key = none := by
    rw [override?, Option.filter_eq_none_iff]
    intro v found
    simp [silent v found]
  rw [merge_object, Json.get?, get?_mergeMembers unique, nothing]
  rfl

end StartSignal.Json
