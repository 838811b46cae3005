/-
# StartSignal.Proofs.Json.Path -- what a merge leaves at the end of a path

A path of member names goes down through the objects of a value.  What a merge leaves at its
end depends on where the overrides, followed along it, cease to be objects (`Leaves`):

* at its very end, in a value that is no null: that value is found there (`at?_merge_laid`);
* in nothing, or in a null: what the base has is found (`at?_merge_kept`).

Nothing is found that was in neither of the two (`isSome_at?_merge`), and every object keeps its
names in order, so that none stands twice (`Ordered.merge`).

One step of a path is one member of two objects that merge.  Where the base has no such member
the merge goes on over null, so each law is an induction over the path, for every base.

Main result: `merge_overlaid`.
-/
import StartSignal.Proofs.Json.Merge

namespace StartSignal

theorem Members.Ordered.nodup_keys {α : Type} {ms : Members α} (ordered : ms.Ordered) :
    ms.keys.Nodup := by
  rw [List.Nodup, Members.keys, List.pairwise_map]
  apply ordered.imp
  intro a b before same
  exact String.lt_irrefl _ (same ▸ before)

namespace Json

/-! ## Paths -/

def IsPlain (v : Json) : Prop := v.isNull = false ∧ ∀ ms, v ≠ .object ms

def HasObject (v : Json) (path : List String) : Prop := ∃ ms, v.at? path = some (.object ms)

/-- `stop` is the shortest beginning of the path at which the value has no object. -/
structure Leaves (v : Json) (path stop : List String) : Prop where
  along : stop <+: path
  outside : ¬ v.HasObject stop
  inside : ∀ front, front <+: stop → front ≠ stop → v.HasObject front

theorem at?_cons {v w : Json} {key : String} {path : List String} :
    v.at? (key :: path) = some w ↔ ∃ u, v.get? key = some u ∧ u.at? path = some w := by
  rw [at?, Option.bind_eq_some_iff]

theorem at?_cons_of_get? {v u : Json} {key : String} (found : v.get? key = some u)
    (path : List String) : v.at? (key :: path) = u.at? path := by
  rw [at?, found, Option.bind_some]

/-- Only an object has members. -/
theorem exists_object_of_get? {v u : Json} {key : String} (found : v.get? key = some u) :
    ∃ ms, v = .object ms := by
  cases v with
  | object ms => exact ⟨ms, rfl⟩
  | _ => cases found

/-- A null has nothing below it. -/
theorem isNull_of_at? {v w : Json} {path : List String} (found : v.at? path = some w)
    (solid : w.isNull = false) : v.isNull = false := by
  cases path with
  | nil =>
    cases found
    exact solid
  | cons key path =>
    obtain ⟨u, held, -⟩ := at?_cons.mp found
    obtain ⟨ms, rfl⟩ := exists_object_of_get? held
    rfl

theorem Ordered.at? {v w : Json} {path : List String} (ordered : v.Ordered)
    (found : v.at? path = some w) : w.Ordered := by
  induction path generalizing v with
  | nil =>
    cases found
    exact ordered
  | cons key path ih =>
    obtain ⟨u, held, below⟩ := at?_cons.mp found
    exact ih (ordered.member held) below

/-- The first members of an object are in order, too. -/
theorem Ordered.beginning {ms front : Members Json} (ordered : (Json.object ms).Ordered)
    (begun : front <+: ms) : (Json.object front).Ordered := by
  cases ordered with
  | object names each =>
    exact .object (names.sublist begun.sublist) fun m member => each m (begun.subset member)

/-- Overrides have a value to lay over a name, or they are silent about it. -/
theorem laid_or_silent (v : Json) (key : String) :
    (∃ u, v.get? key = some u ∧ u.isNull = false) ∨ ∀ u, v.get? key = some u → u.isNull = true := by
  cases found : v.get? key with
  | none => exact .inr nofun
  | some u =>
    cases null : u.isNull with
    | false => exact .inl ⟨u, rfl, null⟩
    | true =>
      right
      rintro _ ⟨⟩
      exact null

/-- Above an object there are objects. -/
theorem HasObject.beginning {v : Json} {front back : List String}
    (object : v.HasObject (front ++ back)) : v.HasObject front := by
  obtain ⟨ms, found⟩ := object
  induction front generalizing v with
  | nil =>
    cases back with
    | nil => exact ⟨ms, found⟩
    | cons key back =>
      obtain ⟨u, held, -⟩ := at?_cons.mp found
      obtain ⟨os, rfl⟩ := exists_object_of_get? held
      exact ⟨os, rfl⟩
  | cons key front ih =>
    obtain ⟨u, held, below⟩ := at?_cons.mp found
    obtain ⟨os, inside⟩ := ih below
    exact ⟨os, at?_cons.mpr ⟨u, held, inside⟩⟩

/-- A path leaves a value one name below an object. -/
theorem leaves_concat {v : Json} {front path : List String} {key : String}
    (along : front ++ [key] <+: path) (object : v.HasObject front)
    (outside : ¬ v.HasObject (front ++ [key])) : v.Leaves path (front ++ [key]) := by
  refine ⟨along, outside, ?_⟩
  intro above early other
  rcases List.prefix_concat_iff.mp early with same | early
  · exact absurd same other
  · obtain ⟨back, rfl⟩ := early
    exact object.beginning

/-- A path that leaves an object leaves it inside one of its members, or for want of one. -/
theorem Leaves.cons {ms : Members Json} {key : String} {path stop : List String}
    (leaves : (Json.object ms).Leaves (key :: path) stop) :
    ∃ rest, stop = key :: rest ∧
      ∀ u, (Json.object ms).get? key = some u →
        u.Leaves path rest ∧ (rest ≠ [] → ∃ os, u = .object os) := by
  obtain ⟨along, outside, inside⟩ := leaves
  cases stop with
  | nil => exact absurd ⟨ms, rfl⟩ outside
  | cons name rest =>
    obtain ⟨rfl, below⟩ := List.cons_prefix_cons.mp along
    have within : ∀ u, (Json.object ms).get? name = some u →
        ∀ front, front <+: rest → front ≠ rest → u.HasObject front := by
      intro u found front early other
      have object := inside (name :: front) (List.cons_prefix_cons.mpr ⟨rfl, early⟩)
        (fun same => other (List.cons.inj same).2)
      rwa [HasObject, at?_cons_of_get? found] at object
    refine ⟨rest, rfl, fun u found => ⟨⟨below, ?_, within u found⟩, fun more => ?_⟩⟩
    · intro object
      apply outside
      rwa [HasObject, at?_cons_of_get? found]
    · obtain ⟨os, same⟩ := within u found [] List.nil_prefix (Ne.symm more)
      exact ⟨os, Option.some.inj same⟩

/-! ## A merge at the end of a path -/

/-- A value that is no object replaces the base. -/
theorem merge_leaf {v : Json} (leaf : ∀ ms, v ≠ .object ms) (base : Json) : merge base v = v := by
  rcases merge_cases base v with ⟨_, os, -, object⟩ | replaced
  · exact absurd object (leaf os)
  · exact replaced

/-- A value that is neither null nor an object is laid over whatever was there. -/
theorem at?_merge_laid {base overrides v : Json} {path : List String} (ordered : overrides.Ordered)
    (found : overrides.at? path = some v) (plain : v.IsPlain) :
    (merge base overrides).at? path = some v := by
  induction path generalizing base overrides with
  | nil =>
    cases found
    exact congrArg some (merge_leaf plain.2 base)
  | cons key path ih =>
    rcases merge_cases base overrides with ⟨ms, os, rfl, rfl⟩ | replaced
    · obtain ⟨u, held, below⟩ := at?_cons.mp found
      have solid : u.isNull = false := isNull_of_at? below plain.1
      rw [at?_cons_of_get? (get?_merge_laid ms ordered.members held solid)]
      exact ih (ordered.member held) below
    · rw [replaced]
      exact found

/-- Where the objects of the overrides end in nothing, or in a null, what the base has is kept. -/
theorem at?_merge_kept {base v : Json} {os : Members Json} {path stop : List String}
    (ordered : (Json.object os).Ordered) (found : base.at? path = some v)
    (leaves : (Json.object os).Leaves path stop)
    (silent : ∀ u, (Json.object os).at? stop = some u → u.isNull = true) :
    (merge base (.object os)).at? path = some v := by
  induction path generalizing base os stop with
  | nil =>
    have here : stop = [] := List.prefix_nil.mp leaves.along
    exact absurd ⟨os, here ▸ rfl⟩ leaves.outside
  | cons key path ih =>
    obtain ⟨b, had, below⟩ := at?_cons.mp found
    obtain ⟨ms, rfl⟩ := exists_object_of_get? had
    obtain ⟨rest, rfl, onward⟩ := leaves.cons
    rcases laid_or_silent (.object os) key with ⟨u, held, solid⟩ | quiet
    · obtain ⟨leaves', deeper⟩ := onward u held
      rw [at?_cons_of_get? held] at silent
      have more : rest ≠ [] := by
        rintro rfl
        rw [silent u rfl] at solid
        cases solid
      obtain ⟨us, rfl⟩ := deeper more
      have merged := get?_merge_laid ms ordered.members held solid
      rw [had, Option.getD_some] at merged
      rw [at?_cons_of_get? merged]
      exact ih (ordered.member held) below leaves' silent
    · have kept := get?_merge_silent ms ordered.members quiet
      rw [had] at kept
      rw [at?_cons_of_get? kept]
      exact below

/-- What is found after a merge was in one of the two. -/
theorem isSome_at?_merge {base overrides : Json} {path : List String} (ordered : overrides.Ordered)
    (found : ((merge base overrides).at? path).isSome) :
    (base.at? path).isSome ∨ (overrides.at? path).isSome := by
  induction path generalizing base overrides with
  | nil => exact .inl rfl
  | cons key path ih =>
    rcases merge_cases base overrides with ⟨ms, os, rfl, rfl⟩ | replaced
    · rcases laid_or_silent (.object os) key with ⟨u, held, solid⟩ | quiet
      · rw [at?_cons_of_get? (get?_merge_laid ms ordered.members held solid)] at found
        rw [at?_cons_of_get? held]
        cases had : (Json.object ms).get? key with
        | none =>
          rw [had, Option.getD_none, merge_null] at found
          exact .inr found
        | some b =>
          rw [had, Option.getD_some] at found
          rw [at?_cons_of_get? had]
          exact ih (ordered.member held) found
      · left
        rwa [at?, get?_merge_silent ms ordered.members quiet, ← at?] at found
    · rw [replaced] at found
      exact .inr found

/-! ## Names -/

/-- Members laid over others keep the order at every depth, if each merge does. -/
theorem ordered_object_mergeMembers {overrides ms : Members Json}
    (ordered : (Json.object ms).Ordered)
    (each : ∀ m ∈ overrides, ∀ base : Json, base.Ordered → (merge base m.2).Ordered) :
    (Json.object (mergeMembers ms overrides)).Ordered := by
  induction overrides generalizing ms with
  | nil =>
    rw [mergeMembers]
    exact ordered
  | cons m overrides ih =>
    obtain ⟨first, others⟩ := List.forall_mem_cons.mp each
    rw [mergeMembers_cons]
    split
    · exact ih ordered others
    · refine ih (ordered.insert ?_ _) others
      rw [mergeOption_eq]
      exact first _ (ordered.getD_null m.1)

theorem Ordered.merge {base overrides : Json} (below : base.Ordered) (above : overrides.Ordered) :
    (merge base overrides).Ordered := by
  induction above generalizing base with
  | @object os names each ih =>
    rcases merge_cases base (.object os) with ⟨ms, _, rfl, -⟩ | replaced
    · rw [merge_object]
      exact ordered_object_mergeMembers below fun m member base ordered => ih m member ordered
    · rw [replaced]
      exact .object names each
  | array each =>
    rw [merge_leaf]
    · exact .array each
    · nofun
  | _ =>
    rw [merge_leaf]
    · constructor
    · nofun

/-! ## Main result -/

/-- What a merge has made of a base and what is laid over it, path by path. -/
structure Overlaid (base overrides merged : Json) : Prop where
  /-- A value that is neither null nor an object is found where it was. -/
  laid : ∀ path v, overrides.at? path = some v → v.IsPlain → merged.at? path = some v
  /-- Where the overrides leave off with no member, or with a null, the base is found. -/
  kept : ∀ path v stop, base.at? path = some v → overrides.Leaves path stop →
    overrides.at? stop = none ∨ overrides.at? stop = some .null → merged.at? path = some v
  /-- Nothing else is found. -/
  sourced : ∀ path v, merged.at? path = some v →
    (∃ w, base.at? path = some w) ∨ ∃ w, overrides.at? path = some w
  /-- The names of every object are in order. -/
  ordered : merged.Ordered
  /-- No name stands twice. -/
  distinct : ∀ path ms, merged.at? path = some (.object ms) → (Members.keys ms).Nodup

/-- **A merge of objects, path by path.**  What is found at the end of a path is decided by the
two objects along it.  No name stands twice in an object, at any depth, and after no turn of the
loop that lays one member after the other. -/
theorem merge_overlaid {ms os : Members Json} (below : (Json.object ms).Ordered)
    (above : (Json.object os).Ordered) :
    Overlaid (.object ms) (.object os) (merge (.object ms) (.object os)) ∧
      ∀ done, done <+: os → (merge (.object ms) (.object done)).Ordered := by
  have ordered : (merge (.object ms) (.object os)).Ordered := below.merge above
  refine ⟨?_, fun done begun => below.merge (above.beginning begun)⟩
  constructor
  case laid =>
    intro path v found plain
    exact at?_merge_laid above found plain
  case kept =>
    intro path v stop found leaves silent
    apply at?_merge_kept above found leaves
    intro u held
    rcases silent with none | null
    · rw [none] at held
      cases held
    · rw [null] at held
      cases held
      rfl
  case sourced =>
    intro path v found
    have some := isSome_at?_merge above (Option.isSome_of_eq_some found)
    simpa only [Option.isSome_iff_exists] using some
  case ordered => exact ordered
  case distinct =>
    intro path ks found
    exact (ordered.at? found).members.nodup_keys

/-- A base with an address and a level. -/
def addressed : Members Json :=
  [("listener", .object [("host", .string "0.0.0.0"), ("port", .nat 50000)]),
   ("logging", .object [("level", .string "info")])]

/-- Overrides that leave the host open, give a port, and put a text for a section. -/
def openHost : Members Json :=
  [("listener", .object [("host", .null), ("port", .nat 6000)]), ("logging", .string "debug")]

theorem merge_overlaid_openHost :
    (Json.object addressed).Ordered ∧ (Json.object openHost).Ordered ∧
      (merge (.object addressed) (.object openHost)).at? ["listener", "port"] = some (.nat 6000) ∧
      (merge (.object addressed) (.object openHost)).at? ["listener", "host"] =
        some (.string "0.0.0.0") ∧
      (merge (.object addressed) (.object openHost)).at? ["logging"] = some (.string "debug") := by
  have below : (Json.object addressed).Ordered := by
    refine .object (by decide) ?_
    simp only [addressed, List.forall_mem_cons]
    refine ⟨.object (by decide) ?_, .object (by decide) ?_, List.forall_mem_nil _⟩
    · simp [Ordered.string, Ordered.number, nat]
    · simp [Ordered.string]
  have above : (Json.object openHost).Ordered := by
    refine .object (by decide) ?_
    simp only [openHost, List.forall_mem_cons]
    refine ⟨.object (by decide) ?_, .string _, List.forall_mem_nil _⟩
    simp [Ordered.null, Ordered.number, nat]
  have leaves : (Json.object openHost).Leaves ["listener", "host"] ["listener", "host"] := by
    have outside : ¬ (Json.object openHost).HasObject (["listener"] ++ ["host"]) := by
      rintro ⟨ms, found⟩
      cases found
    exact leaves_concat List.prefix_rfl ⟨_, rfl⟩ outside
  obtain ⟨overlaid, -⟩ := merge_overlaid below above
  refine ⟨below, above, ?_, ?_, ?_⟩
  · exact overlaid.laid _ _ rfl ⟨rfl, nofun⟩
  · exact overlaid.kept _ _ _ rfl leaves (.inr rfl)
  · exact overlaid.laid _ _ rfl ⟨rfl, nofun⟩

end Json

end StartSignal
