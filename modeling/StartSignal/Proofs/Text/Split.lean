/-
# StartSignal.Proofs.Text.Split -- texts cut at a separator and put together again

Two lists that are each put together around one separator can be the same although their parts
are not: the parts are then divided at two separators of the one list, and what stands between
these is at the end of one part and at the beginning of another (`append_sep_inj_iff`).

`splitOn` is the standard library's cutting of a list (`splitOn_eq`), so what is known of that
holds of it.  Cutting and joining undo each other: joining the segments gives the list back,
and cutting joined segments gives the segments back unless the separator stands inside one.  A
cut at a separator that is known falls between what the two sides are cut into
(`splitOn_append_sep`).

The last separator alone parts a list in two (`splitLast?`).
-/
import StartSignal.Text.Basic

namespace StartSignal.Text

/-! ## Two places to part a list -/

section Parting

variable {α : Type} {sep : α} {before after before' after' : List α}

/-- A list parted at two places is parted at one, or the later front is the earlier one, its
separator and what stands in between. -/
theorem append_sep_inj_of_length_le
    (same : before ++ sep :: after = before' ++ sep :: after')
    (shorter : before.length ≤ before'.length) :
    (before = before' ∧ after = after') ∨
      ∃ middle, before' = before ++ sep :: middle ∧ after = middle ++ sep :: after' := by
  have front : before <+: before' := by
    refine List.prefix_of_prefix_length_le (List.prefix_append before (sep :: after)) ?_ shorter
    rw [same]
    exact List.prefix_append before' (sep :: after')
  obtain ⟨between, rfl⟩ := front
  rw [List.append_assoc] at same
  rcases List.cons_eq_append_iff.mp (List.append_cancel_left same) with
    ⟨rfl, rest⟩ | ⟨middle, rfl, rest⟩
  · exact .inl ⟨(List.append_nil before).symm, (List.cons.inj rest).2.symm⟩
  · exact .inr ⟨middle, rfl, rest⟩

theorem append_sep_inj_iff :
    before ++ sep :: after = before' ++ sep :: after' ↔
      (before = before' ∧ after = after') ∨
      (∃ middle, before' = before ++ sep :: middle ∧ after = middle ++ sep :: after') ∨
      ∃ middle, before = before' ++ sep :: middle ∧ after' = middle ++ sep :: after := by
  constructor
  · intro same
    rcases Nat.le_total before.length before'.length with shorter | longer
    · rcases append_sep_inj_of_length_le same shorter with equal | slid
      · exact .inl equal
      · exact .inr (.inl slid)
    · rcases append_sep_inj_of_length_le same.symm longer with equal | slid
      · exact .inl ⟨equal.1.symm, equal.2.symm⟩
      · exact .inr (.inr slid)
  · rintro (⟨rfl, rfl⟩ | ⟨middle, rfl, rfl⟩ | ⟨middle, rfl, rfl⟩)
    · rfl
    · rw [List.append_assoc, List.cons_append]
    · rw [List.append_assoc, List.cons_append]

end Parting

/-! ## Cutting at every separator -/

variable {α : Type} [DecidableEq α] {sep : α}

theorem splitOn_eq (sep : α) (cs : List α) : splitOn sep cs = cs.splitOn sep := by
  induction cs with
  | nil => rfl
  | cons c cs ih =>
    rw [splitOn, ih, List.splitOn_cons_eq_if_modifyHead]
    simp only [beq_iff_eq]
    split
    · rfl
    · cases segments : cs.splitOn sep with
      | nil => exact absurd segments (List.splitOn_ne_nil sep cs)
      | cons s ss => rfl

theorem splitOn_append_sep (before after : List α) :
    splitOn sep (before ++ sep :: after) = splitOn sep before ++ splitOn sep after := by
  simp only [splitOn_eq]
  exact List.splitOn_append_cons_self before after

theorem notMem_of_mem_splitOn {cs : List α} : ∀ s ∈ splitOn sep cs, sep ∉ s := by
  induction cs with
  | nil => simp [splitOn]
  | cons c cs ih =>
    rw [splitOn]
    split
    · exact List.forall_mem_cons.mpr ⟨List.not_mem_nil, ih⟩
    · rename_i other
      cases segments : splitOn sep cs with
      | nil => exact absurd segments (splitOn_ne_nil sep cs)
      | cons s ss =>
        obtain ⟨first, others⟩ := List.forall_mem_cons.mp (segments ▸ ih)
        refine List.forall_mem_cons.mpr ⟨fun member => ?_, others⟩
        rcases List.mem_cons.mp member with same | later
        · exact other same.symm
        · exact first later

theorem splitOn_joinWith {sep : Char} {segments : List (List Char)} (some : segments ≠ [])
    (free : ∀ s ∈ segments, sep ∉ s) : splitOn sep (joinWith sep segments) = segments := by
  rw [splitOn_eq]
  exact List.splitOn_intercalate sep free some

theorem joinWith_splitOn (sep : Char) (cs : List Char) : joinWith sep (splitOn sep cs) = cs := by
  rw [splitOn_eq]
  exact List.intercalate_splitOn sep

theorem splitOn_of_notMem {cs : List α} (free : sep ∉ cs) : splitOn sep cs = [cs] := by
  induction cs with
  | nil => rfl
  | cons c cs ih =>
    obtain ⟨other, rest⟩ := List.ne_and_not_mem_of_not_mem_cons free
    rw [splitOn, if_neg (Ne.symm other), ih rest]

/-- Every piece is read for itself. -/
theorem mapM_eq_some_iff {α β : Type} {f : α → Option β} {xs : List α} {ys : List β} :
    xs.mapM f = some ys ↔ xs.map f = ys.map some := by
  induction xs generalizing ys with
  | nil => cases ys <;> simp
  | cons x xs ih =>
    rw [List.mapM_cons, List.map_cons]
    constructor
    · intro read
      obtain ⟨y, first, readRest⟩ := Option.bind_eq_some_iff.mp read
      obtain ⟨rest, others, same⟩ := Option.bind_eq_some_iff.mp readRest
      cases same
      rw [first, ih.mp others, List.map_cons]
    · intro same
      cases ys with
      | nil => cases same
      | cons y ys =>
        obtain ⟨first, others⟩ := List.cons.inj same
        rw [first, ih.mpr others]
        rfl

/-! ## The last separator -/

/-- What stands before and after the last separator. -/
def splitLast? (sep : α) : List α → Option (List α × List α)
  | [] => none
  | c :: cs =>
    match splitLast? sep cs with
    | some (before, after) => some (c :: before, after)
    | none => if c = sep then some ([], cs) else none

theorem splitLast?_eq_none_iff {cs : List α} : splitLast? sep cs = none ↔ sep ∉ cs := by
  induction cs with
  | nil => simp [splitLast?]
  | cons c cs ih =>
    rw [splitLast?]
    cases rest : splitLast? sep cs with
    | some parts =>
      have member : sep ∈ cs := by
        refine Decidable.byContradiction fun free => ?_
        rw [ih.mpr free] at rest
        cases rest
      simp [member]
    | none => simp [ih.mp rest, eq_comm]

theorem splitLast?_eq_some_iff {cs before after : List α} :
    splitLast? sep cs = some (before, after) ↔ cs = before ++ sep :: after ∧ sep ∉ after := by
  constructor
  · intro parted
    induction cs generalizing before after with
    | nil => cases parted
    | cons c cs ih =>
      rw [splitLast?] at parted
      cases rest : splitLast? sep cs with
      | some parts =>
        rw [rest] at parted
        cases parted
        obtain ⟨whole, free⟩ := ih rest
        exact ⟨congrArg (c :: ·) whole, free⟩
      | none =>
        simp only [rest, Option.ite_none_right_eq_some, Option.some.injEq, Prod.mk.injEq] at parted
        obtain ⟨rfl, rfl, rfl⟩ := parted
        exact ⟨rfl, splitLast?_eq_none_iff.mp rest⟩
  · rintro ⟨rfl, free⟩
    induction before with
    | nil =>
      rw [List.nil_append, splitLast?, splitLast?_eq_none_iff.mpr free]
      exact if_pos rfl
    | cons c before ih => rw [List.cons_append, splitLast?, ih]

end StartSignal.Text
