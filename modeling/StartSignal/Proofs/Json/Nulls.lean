/-
# StartSignal.Proofs.Json.Nulls -- which nulls a merge passes over

To leave the nulls out of a value is to drop the null members of its objects at every depth
outside arrays (`withoutNulls`).  A merge does that only along the objects that it merges
member by member.  An object that lands where the base has nothing, or no object, is taken as
it is, and its nulls with it: so the nulls of a value do not matter exactly when each of them
is laid over an object.

Over the defaults, which have no modules, a null module is kept and then refused, while a null
level is passed over.

Main result: `merge_withoutNulls_iff`.
-/
import StartSignal.Proofs.Json.Merge
import StartSignal.Settings.Load

namespace StartSignal.Json

/-! ## Leaving nulls out -/

mutual

/-- The value with the null members of its objects left out, at every depth outside arrays. -/
def withoutNulls : Json → Json
  | .object ms => .object (membersWithoutNulls ms)
  | v => v

/-- The members that are not null, each with the nulls inside it left out. -/
def membersWithoutNulls : List (String × Json) → Members Json
  | [] => []
  | (key, v) :: ms =>
    if v.isNull then membersWithoutNulls ms
    else (key, v.withoutNulls) :: membersWithoutNulls ms

end

theorem membersWithoutNulls_eq (ms : Members Json) :
    membersWithoutNulls ms =
      (ms.filter fun m => !m.2.isNull).map fun m => (m.1, m.2.withoutNulls) := by
  induction ms with
  | nil => simp only [membersWithoutNulls, List.filter_nil, List.map_nil]
  | cons m ms ih =>
    obtain ⟨key, v⟩ := m
    rw [membersWithoutNulls]
    cases null : v.isNull <;> simp [null, ih]

@[simp]
theorem isNull_withoutNulls (v : Json) : v.withoutNulls.isNull = v.isNull := by
  cases v <;> simp only [withoutNulls, isNull]

theorem ordered_membersWithoutNulls {ms : Members Json} (ordered : ms.Ordered) :
    (membersWithoutNulls ms).Ordered := by
  rw [membersWithoutNulls_eq]
  exact List.pairwise_map.mpr (ordered.filter _)

/-- What is left under a name: a member that is not null, without the nulls inside it. -/
theorem get?_membersWithoutNulls {ms : Members Json} (unique : ms.Ordered) (key : String) :
    (membersWithoutNulls ms).get? key = (override? ms key).map withoutNulls := by
  induction ms with
  | nil =>
    rw [membersWithoutNulls]
    rfl
  | cons m ms ih =>
    obtain ⟨name, v⟩ := m
    obtain ⟨above, rest⟩ := List.pairwise_cons.mp unique
    rw [membersWithoutNulls, override?, Members.get?]
    by_cases here : name = key
    · have gone : Members.get? ms key = none :=
        Members.get?_eq_none fun n later same =>
          String.lt_irrefl _ (here ▸ same ▸ above n later)
      rw [if_pos here, Option.filter_some]
      cases null : v.isNull with
      | true =>
        rw [if_pos rfl, ih rest, override?, gone]
        rfl
      | false => exact if_pos here
    · rw [if_neg here, ← override?, ← ih rest]
      split
      · rfl
      · exact if_neg here

/-- No null is left. -/
theorem at?_withoutNulls {v : Json} (ordered : v.Ordered) (path : List String) (key : String) :
    v.withoutNulls.at? (path ++ [key]) ≠ some .null := by
  induction path generalizing v with
  | nil =>
    intro found
    cases ordered with
    | object names each =>
      rename_i ms
      simp only [withoutNulls, List.nil_append, at?, Json.get?, get?_membersWithoutNulls names,
        Option.bind_fun_some, Option.map_eq_some_iff] at found
      obtain ⟨w, held, null⟩ := found
      obtain ⟨-, solid⟩ := override?_eq_some_iff.mp held
      rw [← isNull_withoutNulls, null] at solid
      cases solid
    | _ => cases found
  | cons name path ih =>
    intro found
    cases ordered with
    | object names each =>
      simp only [withoutNulls, List.cons_append, at?, Json.get?, get?_membersWithoutNulls names,
        Option.bind_eq_some_iff, Option.map_eq_some_iff] at found
      obtain ⟨_, ⟨w, held, rfl⟩, inside⟩ := found
      have member := Members.mem_of_get? (override?_eq_some_iff.mp held).1
      exact ih (each _ member) inside
    | _ => cases found

/-! ## Nulls over objects -/

/-- Every null member of a value is laid over an object of the base. -/
def NullsOverObjects (base v : Json) : Prop :=
  ∀ path key, v.at? (path ++ [key]) = some .null → ∃ ms, base.at? path = some (.object ms)

theorem at?_cons_eq_object {base : Json} {key : String} {path : List String} :
    (∃ ms, base.at? (key :: path) = some (.object ms)) ↔
      ∃ ms, ((base.get? key).getD .null).at? path = some (.object ms) := by
  rw [at?]
  cases base.get? key with
  | some v => rfl
  | none => cases path <;> simp [at?, Json.get?]

/-- Nulls of a member are laid over what the base has under its name. -/
theorem NullsOverObjects.member {base v w : Json} {key : String} (laid : NullsOverObjects base v)
    (found : v.get? key = some w) : NullsOverObjects ((base.get? key).getD .null) w := by
  intro path name null
  refine at?_cons_eq_object.mp (laid (key :: path) name ?_)
  rw [List.cons_append, at?, found]
  exact null

/-- The same members come of a merge if each of them does. -/
theorem mergeMembers_withoutNulls {overrides : Members Json} (unique : overrides.Ordered)
    {ms : Members Json}
    (each : ∀ m ∈ overrides,
      mergeOption (ms.get? m.1) m.2.withoutNulls = mergeOption (ms.get? m.1) m.2) :
    mergeMembers ms (membersWithoutNulls overrides) = mergeMembers ms overrides := by
  induction overrides generalizing ms with
  | nil => rw [membersWithoutNulls]
  | cons m overrides ih =>
    obtain ⟨key, v⟩ := m
    obtain ⟨above, rest⟩ := List.pairwise_cons.mp unique
    obtain ⟨first, others⟩ := List.forall_mem_cons.mp each
    rw [membersWithoutNulls, mergeMembers_cons]
    cases null : v.isNull with
    | true =>
      rw [if_pos rfl, if_pos rfl]
      exact ih rest others
    | false =>
      rw [if_neg Bool.false_ne_true, if_neg Bool.false_ne_true, mergeMembers_cons,
        isNull_withoutNulls, null, if_neg Bool.false_ne_true, first]
      refine ih rest fun n later => ?_
      -- The names that follow still have what they had.
      have other : n.1 ≠ key := fun same => String.lt_irrefl _ (same ▸ above n later)
      rw [Members.get?_insert_ne _ _ other]
      exact others n later

/-- Members without nulls are left as they are. -/
theorem membersWithoutNulls_of_free {ms : Members Json}
    (free : ∀ m ∈ ms, m.2.isNull = false ∧ m.2.withoutNulls = m.2) :
    membersWithoutNulls ms = ms := by
  induction ms with
  | nil => rw [membersWithoutNulls]
  | cons m ms ih =>
    obtain ⟨⟨solid, same⟩, others⟩ := List.forall_mem_cons.mp free
    rw [membersWithoutNulls, solid, if_neg Bool.false_ne_true, same, ih others]

/-- Nulls over objects are passed over. -/
theorem merge_withoutNulls {base v : Json} (ordered : v.Ordered)
    (laid : NullsOverObjects base v) : merge base v.withoutNulls = merge base v := by
  induction ordered generalizing base with
  | @object overrides names each ih =>
    have inside : ∀ m ∈ overrides, merge ((base.get? m.1).getD .null) m.2.withoutNulls =
        merge ((base.get? m.1).getD .null) m.2 := by
      intro m member
      exact ih m member (laid.member (names.get?_of_mem member))
    by_cases object : ∃ ms, base = .object ms
    · obtain ⟨ms, rfl⟩ := object
      rw [withoutNulls, merge_object, merge_object, mergeMembers_withoutNulls names]
      intro m member
      rw [mergeOption_eq, mergeOption_eq]
      exact inside m member
    · have leaf : ∀ ms, base ≠ .object ms := fun ms same => object ⟨ms, same⟩
      have bare : ∀ key, base.get? key = none := by
        intro key
        cases base with
        | object ms => exact absurd rfl (leaf ms)
        | _ => rfl
      rw [merge_of_not_object leaf, merge_of_not_object leaf, withoutNulls,
        membersWithoutNulls_of_free]
      intro m member
      constructor
      · cases null : m.2 with
        | null =>
          have found : (Json.object overrides).at? ([] ++ [m.1]) = some .null := by
            simp [at?, Json.get?, names.get?_of_mem member, null]
          obtain ⟨ms, same⟩ := laid [] m.1 found
          exact absurd (Option.some.inj same) (leaf ms)
        | _ => rfl
      · have same := inside m member
        rwa [bare, Option.getD_none, merge_null, merge_null] at same
  | _ => simp only [withoutNulls]

/-- A base that passes over a null is an object. -/
theorem exists_object_of_merge {base v : Json} {path : List String} {key : String}
    (ordered : v.Ordered) (null : v.at? (path ++ [key]) = some .null)
    (same : merge base v.withoutNulls = merge base v) : ∃ ms, base = .object ms := by
  by_cases object : ∃ ms, base = .object ms
  · exact object
  · have leaf : ∀ ms, base ≠ .object ms := fun ms here => object ⟨ms, here⟩
    rw [merge_of_not_object leaf, merge_of_not_object leaf] at same
    have kept : v.withoutNulls.at? (path ++ [key]) = some .null := same.symm ▸ null
    exact absurd kept (at?_withoutNulls ordered path key)

/-- Nulls that are passed over have been laid over objects. -/
theorem nullsOverObjects_of_merge {base v : Json} (ordered : v.Ordered)
    (same : merge base v.withoutNulls = merge base v) : NullsOverObjects base v := by
  intro path key null
  induction path generalizing base v with
  | nil =>
    obtain ⟨ms, rfl⟩ := exists_object_of_merge ordered null same
    exact ⟨ms, rfl⟩
  | cons name path ih =>
    obtain ⟨ms, rfl⟩ := exists_object_of_merge ordered null same
    rw [List.cons_append, at?, Option.bind_eq_some_iff] at null
    obtain ⟨w, found, inside⟩ := null
    refine at?_cons_eq_object.mpr (ih (ordered.member found) ?_ inside)
    cases ordered with
    | @object overrides names each =>
      have solid : w.isNull = false := by
        cases w with
        | null => cases path <;> cases inside
        | _ => rfl
      have held : override? overrides name = some w := override?_eq_some_iff.mpr ⟨found, solid⟩
      have bare : (Json.object (membersWithoutNulls overrides)).get? name = some w.withoutNulls := by
        rw [Json.get?, get?_membersWithoutNulls names, held, Option.map_some]
      have under := congrArg (Json.get? · name) same
      simp only [withoutNulls, get?_merge_laid ms names found solid,
        get?_merge_laid ms (ordered_membersWithoutNulls names) bare
          ((isNull_withoutNulls w).trans solid)] at under
      exact Option.some.inj under
    | _ => cases found

/-- **A merge passes over the nulls of a value exactly when each of them is laid over an
object**, at every depth outside arrays. -/
theorem merge_withoutNulls_iff {overrides : Json} (ordered : overrides.Ordered) (base : Json) :
    merge base overrides.withoutNulls = merge base overrides ↔
      ∀ path key, overrides.at? (path ++ [key]) = some .null →
        ∃ ms, base.at? path = some (.object ms) := by
  constructor
  · intro same
    exact nullsOverObjects_of_merge ordered same
  · intro laid
    exact merge_withoutNulls ordered laid

/-- A file that leaves a level open. -/
def nullLevel : Json := .object [("logging", .object [("level", .null)])]

theorem merge_withoutNulls_iff_nullLevel :
    nullLevel.Ordered ∧
      merge Settings.standard.json nullLevel.withoutNulls =
        merge Settings.standard.json nullLevel := by
  have ordered : nullLevel.Ordered := by
    refine .object (List.pairwise_singleton _ _) (List.forall_mem_singleton.mpr ?_)
    exact .object (List.pairwise_singleton _ _) (List.forall_mem_singleton.mpr .null)
  refine ⟨ordered, (merge_withoutNulls_iff ordered _).mpr fun path key null => ?_⟩
  cases path with
  | nil => exact ⟨_, rfl⟩
  | cons part path =>
    have part_eq : part = "logging" := by
      by_cases same : "logging" = part
      · exact same.symm
      · simp [nullLevel, at?, Json.get?, Members.get?, same] at null
    subst part_eq
    cases path with
    | nil => exact ⟨_, rfl⟩
    | cons name path =>
      -- Below a level there is nothing.
      by_cases same : "level" = name <;>
        cases path <;> simp [nullLevel, at?, Json.get?, Members.get?, same] at null

/-- A file that leaves the level of a module open. -/
def nullModule : Json :=
  .object [("logging", .object [("modules", .object [("startgate_listener", .null)])])]

/-- **The null of a module over the defaults is kept**, and refused as a level that is no text.
Without it the file changes nothing. -/
theorem nullModule_kept :
    merge Settings.standard.json nullModule.withoutNulls ≠ merge Settings.standard.json nullModule ∧
      Settings.overDefaults nullModule =
        .error (.notSettings (.invalidType "null" "a string")) ∧
      Settings.overDefaults nullModule.withoutNulls = .ok .standard := by
  refine ⟨fun same => ?_, rfl, rfl⟩
  have found := congrArg (at? · ["logging", "modules", "startgate_listener"]) same
  cases found

end StartSignal.Json
