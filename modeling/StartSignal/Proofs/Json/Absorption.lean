/-
# StartSignal.Proofs.Json.Absorption -- laying a value over a base once more

What has been laid over a base changes nothing when it is laid over the outcome again.  The
second time goes other ways than the first: an object that landed where the base had nothing was
taken as it is, with the nulls inside it, and now meets itself member by member.  So a value is
laid over itself first (`merge_self`).

Members are absorbed when each of them is null or finds under its name what it would leave there
(`mergeMembers_absorbed`); both laws come down to that, one object at a time.

Main result: `merge_idempotent`.
-/
import StartSignal.Proofs.Json.Path

namespace StartSignal

/-- Giving a name the value it has already changes nothing. -/
theorem Members.Ordered.insert_of_get? {α : Type} {ms : Members α} {key : String} {value : α}
    (ordered : ms.Ordered) (found : ms.get? key = some value) : ms.insert key value = ms := by
  induction ms with
  | nil => cases found
  | cons m ms ih =>
    obtain ⟨above, rest⟩ := List.pairwise_cons.mp ordered
    rw [get?] at found
    rw [Members.insert]
    by_cases same : m.1 = key
    · rw [if_pos same] at found
      cases found
      rw [if_pos same.symm, ← same]
    · rw [if_neg same] at found
      -- The name stands later, so it is behind the first.
      have behind : m.1 < key := above _ (mem_of_get? found)
      rw [if_neg (Ne.symm same), if_neg (String.lt_asymm behind), ih rest found]

namespace Json

/-- Members that are null, or that find under their names what they would leave there, change
nothing. -/
theorem mergeMembers_absorbed {ms os : Members Json} (ordered : ms.Ordered)
    (each : ∀ m ∈ os, m.2.isNull = false →
      ∃ old, ms.get? m.1 = some old ∧ merge old m.2 = old) : mergeMembers ms os = ms := by
  induction os with
  | nil => rw [mergeMembers]
  | cons m os ih =>
    obtain ⟨first, others⟩ := List.forall_mem_cons.mp each
    rw [mergeMembers_cons]
    cases null : m.2.isNull with
    | true =>
      rw [if_pos rfl]
      exact ih others
    | false =>
      obtain ⟨old, found, absorbed⟩ := first null
      have kept : ms.insert m.1 (mergeOption (ms.get? m.1) m.2) = ms := by
        rw [found, mergeOption, absorbed]
        exact ordered.insert_of_get? found
      rw [if_neg Bool.false_ne_true, kept]
      exact ih others

/-- A value laid over itself stays as it is, with the nulls inside it. -/
theorem merge_self {v : Json} (ordered : v.Ordered) : merge v v = v := by
  induction ordered with
  | object names each ih =>
    rw [merge_object, mergeMembers_absorbed names]
    intro m member solid
    exact ⟨m.2, names.get?_of_mem member, ih m member⟩
  | _ =>
    rw [merge_leaf]
    nofun

/-- A value laid over the outcome again leaves it as it is. -/
theorem merge_merge {base v : Json} (below : base.Ordered) (above : v.Ordered) :
    merge (merge base v) v = merge base v := by
  induction above generalizing base with
  | @object os names each ih =>
    rcases merge_cases base (.object os) with ⟨ms, _, rfl, -⟩ | replaced
    · rw [merge_object, merge_object, mergeMembers_absorbed (ordered_mergeMembers below.members os)]
      intro m member solid
      have held : override? os m.1 = some m.2 :=
        override?_eq_some_iff.mpr ⟨names.get?_of_mem member, solid⟩
      refine ⟨mergeOption (Members.get? ms m.1) m.2, by rw [get?_mergeMembers names, held], ?_⟩
      rw [mergeOption_eq]
      exact ih m member (below.getD_null m.1)
    · rw [replaced]
      exact merge_self (.object names each)
  | _ =>
    rw [merge_leaf, merge_leaf]
    · nofun
    · nofun

/-! ## Main result -/

/-- **A merge is idempotent.**  What is laid over a base is absorbed the first time, every value
absorbs itself, and no members change no object. -/
theorem merge_idempotent :
    (∀ b o : Json, b.Ordered → o.Ordered → merge (merge b o) o = merge b o) ∧
      (∀ v : Json, v.Ordered → merge v v = v) ∧
      ∀ ms : Members Json, merge (.object ms) (.object []) = .object ms := by
  refine ⟨fun b o below above => merge_merge below above, fun v ordered => merge_self ordered, ?_⟩
  intro ms
  rw [merge_object, mergeMembers]

/-- A section that the base lacks, with a null inside it, and a null for a section that the base
has. -/
def nullsOverNothing : Json :=
  .object [("a", .object [("b", .null), ("c", .array [.null])]), ("d", .null)]

/-- The null that was taken as it is stays where it is, the second time too. -/
theorem merge_idempotent_nullsOverNothing :
    nullsOverNothing.Ordered ∧ (Json.object [("d", .bool true)]).Ordered ∧
      merge (.object [("d", .bool true)]) nullsOverNothing =
        .object [("a", .object [("b", .null), ("c", .array [.null])]), ("d", .bool true)] ∧
      merge (merge (.object [("d", .bool true)]) nullsOverNothing) nullsOverNothing =
        merge (.object [("d", .bool true)]) nullsOverNothing ∧
      merge nullsOverNothing nullsOverNothing = nullsOverNothing := by
  have below : (Json.object [("d", .bool true)]).Ordered :=
    .object (by decide) (List.forall_mem_singleton.mpr (.bool true))
  have above : nullsOverNothing.Ordered := by
    refine .object (by decide) ?_
    simp only [List.forall_mem_cons]
    refine ⟨.object (by decide) ?_, .null, List.forall_mem_nil _⟩
    simp only [List.forall_mem_cons]
    exact ⟨.null, .array (List.forall_mem_singleton.mpr .null), List.forall_mem_nil _⟩
  exact ⟨above, below, rfl, merge_idempotent.1 _ _ below above, merge_idempotent.2.1 _ above⟩

end Json

end StartSignal
