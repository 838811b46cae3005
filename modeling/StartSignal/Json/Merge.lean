/-
# StartSignal.Json.Merge -- laying one value over another

Two objects merge member by member; any other value laid over a base replaces it
outright.  A null member laid over a base changes nothing.  Only members that take
part in the merge are looked at: a value that lands where the base has nothing is
taken as it is, with the nulls inside it.
-/
import StartSignal.Json.Value

namespace StartSignal.Json

mutual

def merge (base : Json) : Json → Json
  | .object overrides =>
    match base with
    | .object members => .object (mergeMembers members overrides)
    | _ => .object overrides
  | overrides => overrides

/-- Lay the members `overrides` over `members`, one after the other. -/
def mergeMembers (members : Members Json) : List (String × Json) → Members Json
  | [] => members
  | (key, value) :: overrides =>
    if value.isNull then mergeMembers members overrides
    else
      let merged := match members.get? key with
        | some existing => merge existing value
        | none => value
      mergeMembers (members.insert key merged) overrides

end

/-- A value laid over what was there, if anything was. -/
def mergeOption (old : Option Json) (v : Json) : Json :=
  match old with
  | some base => merge base v
  | none => v

/-- A value that is laid over a text or a number replaces it. -/
theorem merge_of_not_object {base : Json} (leaf : ∀ ms, base ≠ .object ms) (v : Json) :
    merge base v = v := by
  cases v with
  | object overrides =>
    cases base with
    | object ms => exact absurd rfl (leaf ms)
    | _ => simp only [merge]
  | _ => simp only [merge]

theorem merge_null (v : Json) : merge .null v = v := by
  refine merge_of_not_object (fun ms same => ?_) v
  cases same

/-- A merge with what was there, if anything was, is a merge with a value that is null
otherwise. -/
theorem mergeOption_eq (old : Option Json) (v : Json) :
    mergeOption old v = merge (old.getD .null) v := by
  cases old with
  | some base => rfl
  | none => exact (merge_null v).symm

theorem merge_object (ms overrides : Members Json) :
    merge (.object ms) (.object overrides) = .object (mergeMembers ms overrides) := by
  simp only [merge]

/-- Either two objects merge, or the overrides replace the base outright. -/
theorem merge_cases (base overrides : Json) :
    (∃ ms os, base = .object ms ∧ overrides = .object os) ∨ merge base overrides = overrides := by
  by_cases object : ∃ ms, base = .object ms
  · obtain ⟨ms, rfl⟩ := object
    cases overrides with
    | object os => exact .inl ⟨ms, os, rfl, rfl⟩
    | _ => exact .inr (by simp only [merge])
  · exact .inr (merge_of_not_object (fun ms same => object ⟨ms, same⟩) overrides)

theorem mergeMembers_cons (ms : Members Json) (key : String) (v : Json)
    (overrides : Members Json) :
    mergeMembers ms ((key, v) :: overrides) =
      if v.isNull then mergeMembers ms overrides
      else mergeMembers (ms.insert key (mergeOption (ms.get? key) v)) overrides := by
  rw [mergeMembers]
  rfl

end StartSignal.Json
