/-
# StartSignal.Proofs.Json.Record -- records that JSON is decoded into

A record is given as an object of its fields or as an array of their values, in the order in
which the fields are declared (`IsRecord`).  What it says of a field is the value in the
field's place (`said?`).  Where an object is laid over the fields of another, a null says
nothing; anywhere else it is a value like any other.

Fields are set one at a time and do not look at each other (`Decodes`).  So a record is
decoded exactly when every field takes what is said of it, or else stays as it was
(`Decodes.section_eq_ok_iff`).  The same holds of a record that is laid over its defaults, if
no field is itself a record (`Layout.part_iff`).
-/
import StartSignal.Proofs.Json.Merge
import StartSignal.Settings.Decode

namespace StartSignal.Json

/-- A record with the given names may be given so. -/
def IsRecord (names : List String) : Json → Prop
  | .object _ => True
  | .array items => items.length ≤ names.length
  | _ => False

def isObject : Json → Bool
  | .object _ => true
  | _ => false

/-- What a record says under a name; `overlaid` tells whether it is laid over an object. -/
def said? (names : List String) (overlaid : Bool) : Json → String → Option Json
  | .object ms, name => if overlaid then override? ms name else Members.get? ms name
  | .array items, name => Members.get? (names.zip items) name
  | _, _ => none

/-- A value laid over the object with the given members, or a value as it is. -/
def laid (overlaid : Bool) (base : Members Json) (v : Json) : Json :=
  if overlaid then merge (.object base) v else v

/-- What becomes of a value: what is decoded from what is said of it, or else what it was. -/
def Becomes {α : Type} (decode : Json → Except DataError α) (said : Option Json) (old new : α) :
    Prop :=
  match said with
  | some v => decode v = .ok new
  | none => new = old

/-- One field of a record. -/
structure Slot (σ : Type) where
  {α : Type}
  name : String
  decode : Json → Except DataError α
  get : σ → α

namespace Slot

variable {σ : Type}

/-- What members make of a field: what they give it, or what it was. -/
def among (f : Slot σ) (ms : Members Json) (old : σ) : Except DataError f.α :=
  ms.readOr f.name f.decode (f.get old)

/-- A field takes what is said of it, or stays as it was. -/
def Takes (f : Slot σ) (said : Option Json) (old new : σ) : Prop :=
  Becomes f.decode said (f.get old) (f.get new)

/-- The field whose value is laid over what the members give it. -/
def onto (base : Members Json) (f : Slot σ) : Slot σ :=
  { f with decode := fun v => f.decode (mergeOption (base.get? f.name) v) }

theorem among_eq_ok_iff {f : Slot σ} {ms : Members Json} {old new : σ} :
    f.among ms old = .ok (f.get new) ↔ f.Takes (ms.get? f.name) old new := by
  unfold among Members.readOr Takes Becomes
  cases ms.get? f.name with
  | some v => rfl
  | none => simp only [Except.ok.injEq, eq_comm]

end Slot

/-- Members that a fold gives to a record reach its fields and nothing else. -/
structure Decodes {σ : Type} (set : σ → String × Json → Except DataError σ)
    (fields : List (Slot σ)) : Prop where
  /-- A member is for the field with its name. -/
  step : ∀ s m s', set s m = .ok s' ↔ ∀ f ∈ fields, f.among [m] s = .ok (f.get s')
  /-- A record is what its fields are. -/
  same : ∀ s s', (∀ f ∈ fields, f.get s = f.get s') → s = s'
  /-- Fields can be chosen one by one. -/
  choose : ∀ P : (f : Slot σ) → f.α → Prop, (∀ f ∈ fields, ∃ x, P f x) →
    ∃ s, ∀ f ∈ fields, P f (f.get s)

/-! ## Members one after the other -/

/-- A member is read before the others, none of which has its name. -/
theorem readOr_cons_eq_ok_iff {α : Type} {m : String × Json} {ms : Members Json}
    (fresh : ∀ n ∈ ms, n.1 ≠ m.1) {name : String} {read : Json → Except DataError α}
    {old new : α} :
    Members.readOr (m :: ms) name read old = .ok new ↔
      ∃ mid, Members.readOr [m] name read old = .ok mid ∧ ms.readOr name read mid = .ok new := by
  by_cases here : m.1 = name
  · have absent : ms.get? name = none := Members.get?_eq_none (here ▸ fresh)
    simp [Members.readOr, Members.get?, here, absent]
  · simp [Members.readOr, Members.get?, here]

section Decoding

variable {σ : Type} {set : σ → String × Json → Except DataError σ} {fields : List (Slot σ)}
  {names : List String} {s s' : σ}

/-- A record whose members have different names takes each of them. -/
theorem Decodes.foldlM_eq_ok_iff (decodes : Decodes set fields) {ms : Members Json}
    (once : ms.keys.Nodup) :
    ms.foldlM set s = .ok s' ↔ ∀ f ∈ fields, f.Takes (ms.get? f.name) s s' := by
  simp only [← Slot.among_eq_ok_iff]
  induction ms generalizing s with
  | nil =>
    constructor
    · intro kept f _
      cases kept
      rfl
    · intro kept
      exact congrArg Except.ok (decodes.same s s' fun f member => Except.ok.inj (kept f member))
  | cons m ms ih =>
    obtain ⟨fresh, rest⟩ := List.nodup_cons.mp once
    have apart : ∀ n ∈ ms, n.1 ≠ m.1 := by
      intro n later same
      exact fresh (List.mem_map.mpr ⟨n, later, same⟩)
    rw [List.foldlM_cons, bind_eq_ok_iff]
    constructor
    · rintro ⟨mid, first, after⟩ f member
      have here := (decodes.step s m mid).mp first f member
      exact (readOr_cons_eq_ok_iff apart).mpr ⟨f.get mid, here, (ih rest).mp after f member⟩
    · intro each
      obtain ⟨mid, taken⟩ := decodes.choose
        (fun f x => f.among [m] s = .ok x ∧ Members.readOr ms f.name f.decode x = .ok (f.get s'))
        fun f member => (readOr_cons_eq_ok_iff apart).mp (each f member)
      exact ⟨mid, (decodes.step s m mid).mpr fun f member => (taken f member).1,
        (ih rest).mpr fun f member => (taken f member).2⟩

theorem nodup_keys_zip (once : names.Nodup) (items : List Json) :
    (Members.keys (names.zip items)).Nodup := by
  have front : Members.keys (names.zip items) = names.take items.length := by
    induction names generalizing items with
    | nil => simp [Members.keys]
    | cons name names ih =>
      cases items with
      | nil => rfl
      | cons item items => exact congrArg (name :: ·) (ih (List.nodup_cons.mp once).2 items)
  rw [front]
  exact once.sublist (List.take_sublist _ _)

/-- A record is decoded when all its fields take what it says of them. -/
theorem Decodes.section_eq_ok_iff (decodes : Decodes set fields) (once : names.Nodup)
    {v : Json} (ordered : v.Ordered) {title : String} :
    decodeSection title names set s v = .ok s' ↔
      v.IsRecord names ∧ ∀ f ∈ fields, f.Takes (v.said? names false f.name) s s' := by
  cases v with
  | object ms =>
    simp only [decodeSection, IsRecord, true_and]
    exact decodes.foldlM_eq_ok_iff (Members.nodup_keys ordered.members)
  | array items =>
    simp only [decodeSection, IsRecord, said?]
    rw [and_comm, ← decodes.foldlM_eq_ok_iff (nodup_keys_zip once items), bind_eq_ok_iff]
    constructor
    · rintro ⟨t, folded, short⟩
      split at short
      · cases short
        exact ⟨folded, ‹_›⟩
      · cases short
    · rintro ⟨folded, short⟩
      refine ⟨s', folded, ?_⟩
      rw [if_pos short]
      rfl
  | _ => simp [decodeSection, refuse, IsRecord]

/-- A record that is laid over another: a field takes what is laid over its value. -/
theorem Decodes.section_merge_eq_ok_iff (decodes : Decodes set fields) {base ms : Members Json}
    (sorted : base.Ordered) (ordered : ms.Ordered) {title : String}
    (default : ∀ f ∈ fields, f.Takes (base.get? f.name) s s) :
    decodeSection title names set s (merge (.object base) (.object ms)) = .ok s' ↔
      ∀ f ∈ fields, (f.onto base).Takes (override? ms f.name) s s' := by
  rw [merge_object]
  show (mergeMembers base ms).foldlM set s = .ok s' ↔ _
  rw [decodes.foldlM_eq_ok_iff (Members.nodup_keys (ordered_mergeMembers sorted ms))]
  refine forall₂_congr fun f member => ?_
  rw [get?_mergeMembers ordered]
  have old := default f member
  cases override? ms f.name with
  | some v => rfl
  | none =>
    show f.Takes (base.get? f.name) s s' ↔ f.get s' = f.get s
    cases held : base.get? f.name with
    | some v =>
      rw [held] at old
      have read : f.decode v = .ok (f.get s) := old
      show f.decode v = .ok (f.get s') ↔ _
      rw [read, Except.ok.injEq, eq_comm]
    | none => rfl

end Decoding

/-! ## Records without records inside -/

/-- A record whose fields are none, how it is decoded, and the members its defaults are. -/
structure Layout (σ : Type) where
  title : String
  names : List String
  set : σ → String × Json → Except DataError σ
  standard : σ
  defaults : Members Json
  fields : List (Slot σ)
  once : names.Nodup
  ordered : defaults.Ordered
  leaves : ∀ m ∈ defaults, ∀ ms, m.2 ≠ .object ms
  defaulted : ∀ f ∈ fields, f.Takes (defaults.get? f.name) standard standard
  decodes : Decodes set fields

namespace Layout

variable {σ : Type} (layout : Layout σ) {s : σ} {overlaid : Bool}

def decode : Json → Except DataError σ :=
  decodeSection layout.title layout.names layout.set layout.standard

/-- What is laid over the value of a field replaces it. -/
theorem onto_defaults (f : Slot σ) : f.onto layout.defaults = f := by
  have replaced : ∀ w, mergeOption (layout.defaults.get? f.name) w = w := by
    intro w
    cases held : layout.defaults.get? f.name with
    | some old => exact merge_of_not_object (layout.leaves _ (Members.mem_of_get? held)) w
    | none => rfl
  simp only [Slot.onto, replaced]

/-- The record is laid over its defaults or taken as it is. -/
theorem decode_laid_iff {v : Json} (ordered : v.Ordered) :
    layout.decode (v.laid overlaid layout.defaults) = .ok s ↔
      v.IsRecord layout.names ∧
        ∀ f ∈ layout.fields, f.Takes (v.said? layout.names overlaid f.name) layout.standard s := by
  unfold decode
  cases overlaid with
  | false =>
    show decodeSection _ _ _ _ v = .ok s ↔ _
    rw [layout.decodes.section_eq_ok_iff layout.once ordered]
  | true =>
    cases v with
    | object ms =>
      show decodeSection _ _ _ _ (merge (.object layout.defaults) (.object ms)) = .ok s ↔ _
      rw [layout.decodes.section_merge_eq_ok_iff layout.ordered ordered.members layout.defaulted]
      simp only [layout.onto_defaults, IsRecord, true_and]
      rfl
    | array items =>
      have replaced : (Json.array items).laid true layout.defaults = .array items := by
        simp only [laid, if_pos, merge]
      rw [replaced, layout.decodes.section_eq_ok_iff layout.once ordered]
      rfl
    | _ => simp [laid, merge, decodeSection, refuse, IsRecord]

/-- A part of a record that is itself a record: if anything is said of it, its fields take
what that says, and else they stay as they were. -/
theorem part_iff {said : Option Json} (ordered : ∀ v, said = some v → v.Ordered) :
    Becomes (fun v => layout.decode (v.laid overlaid layout.defaults)) said layout.standard s ↔
      (∀ v, said = some v → v.IsRecord layout.names) ∧
        ∀ f ∈ layout.fields, f.Takes
          (said.bind fun v => v.said? layout.names overlaid f.name) layout.standard s := by
  cases said with
  | some v =>
    simp only [Option.some.injEq, forall_eq', Option.bind_some]
    exact layout.decode_laid_iff (ordered v rfl)
  | none =>
    simp only [reduceCtorEq, false_implies, implies_true, true_and, Option.bind_none]
    constructor
    · rintro rfl f _
      rfl
    · exact layout.decodes.same s layout.standard

end Layout

end StartSignal.Json
