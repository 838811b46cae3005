/-
# StartSignal.Proofs.Json.Ordered -- members in the order of their names

Members that are given values one at a time stay in the order of their names
(`Members.Ordered.insert`).  So do the objects that are read from a text, at every depth:
the parser is a fold, and each character keeps the order of all that is open
(`State.ordered_step`).

Members in order can be looked at name by name.  Where some names matter and the others are
passed over, to go through the members is to look the names up in turn
(`Members.foldlM_eq_lookups`).

Main results: `ordered_of_parseChars`, `Members.foldlM_eq_lookups`.
-/
import Mathlib.Tactic.SplitIfs
import StartSignal.Json.Parser

namespace StartSignal

theorem bind_eq_ok {ε α β : Type} {x : Except ε α} {next : α → Except ε β} {b : β}
    (ok : (x >>= next) = .ok b) : ∃ a, x = .ok a ∧ next a = .ok b := by
  cases x with
  | ok a => exact ⟨a, rfl, ok⟩
  | error e => cases ok

theorem map_eq_ok {ε α β : Type} {x : Except ε α} {f : α → β} {b : β} (ok : x.map f = .ok b) :
    ∃ a, x = .ok a ∧ f a = b := by
  cases x with
  | ok a => exact ⟨a, rfl, Except.ok.inj ok⟩
  | error e => cases ok

theorem bind_eq_ok_iff {ε α β : Type} {x : Except ε α} {next : α → Except ε β} {b : β} :
    (x >>= next) = .ok b ↔ ∃ a, x = .ok a ∧ next a = .ok b := by
  refine ⟨bind_eq_ok, ?_⟩
  rintro ⟨a, rfl, ok⟩
  exact ok

theorem map_eq_ok_iff {ε α β : Type} {x : Except ε α} {f : α → β} {b : β} :
    x.map f = .ok b ↔ ∃ a, x = .ok a ∧ f a = b := by
  refine ⟨map_eq_ok, ?_⟩
  rintro ⟨a, rfl, rfl⟩
  rfl

namespace Members

variable {α : Type} {ms : Members α} {key : String} {value : α}

/-! ## Order -/

instance (ms : Members α) : Decidable ms.Ordered :=
  inferInstanceAs (Decidable (ms.Pairwise fun a b => a.1 < b.1))

theorem mem_insert {m : String × α} (member : m ∈ ms.insert key value) :
    m = (key, value) ∨ m ∈ ms := by
  induction ms with
  | nil => exact .inl (List.mem_singleton.mp member)
  | cons n ms ih =>
    simp only [insert] at member
    split at member
    · exact (List.mem_cons.mp member).imp_right (List.mem_cons_of_mem _)
    · split at member
      · exact List.mem_cons.mp member
      · rcases List.mem_cons.mp member with rfl | later
        · exact .inr List.mem_cons_self
        · exact (ih later).imp_right (List.mem_cons_of_mem _)

theorem Ordered.insert (ordered : Ordered ms) (key : String) (value : α) :
    Ordered (ms.insert key value) := by
  induction ms with
  | nil => exact List.pairwise_singleton _ _
  | cons n ms ih =>
    obtain ⟨above, rest⟩ := List.pairwise_cons.mp ordered
    simp only [Members.insert]
    split
    · rename_i same
      exact List.pairwise_cons.mpr ⟨fun m member => same ▸ above m member, rest⟩
    · rename_i other
      split
      · rename_i below
        refine List.pairwise_cons.mpr ⟨fun m member => ?_, ordered⟩
        rcases List.mem_cons.mp member with rfl | later
        · exact below
        · exact String.lt_trans below (above m later)
      · rename_i notBelow
        have follows : n.1 < key :=
          String.not_le.mp fun le => other (String.le_antisymm le (String.not_lt.mp notBelow))
        refine List.pairwise_cons.mpr ⟨fun m member => ?_, ih rest⟩
        rcases mem_insert member with rfl | later
        · exact follows
        · exact above m later

/-- Members are in order if their names are. -/
theorem ordered_of_keys {names : List String} (same : ms.keys = names)
    (sorted : names.Pairwise (· < ·)) : ms.Ordered := by
  rw [← same, keys, List.pairwise_map] at sorted
  exact sorted

theorem nodup_keys (ordered : ms.Ordered) : ms.keys.Nodup := by
  rw [keys, List.Nodup, List.pairwise_map]
  refine ordered.imp fun below same => ?_
  exact String.lt_irrefl _ (same ▸ below)

/-- A name behind all others is given its value at the end. -/
theorem insert_of_last (value : α) (last : ∀ m ∈ ms, m.1 < key) :
    ms.insert key value = ms ++ [(key, value)] := by
  induction ms with
  | nil => rfl
  | cons m ms ih =>
    obtain ⟨before, rest⟩ := List.forall_mem_cons.mp last
    have other : key ≠ m.1 := fun same => String.lt_irrefl _ (same ▸ before)
    have notBefore : ¬ key < m.1 := fun after => String.lt_asymm before after
    rw [Members.insert, if_neg other, if_neg notBefore, ih rest]
    rfl

theorem get?_eq_none (absent : ∀ m ∈ ms, m.1 ≠ key) : get? ms key = none := by
  induction ms with
  | nil => rfl
  | cons m ms ih =>
    rw [get?, if_neg (absent m List.mem_cons_self)]
    exact ih fun n later => absent n (List.mem_cons_of_mem _ later)

theorem mem_of_get? (found : get? ms key = some value) : (key, value) ∈ ms := by
  induction ms with
  | nil => cases found
  | cons m ms ih =>
    rw [get?] at found
    split at found
    · rename_i same
      cases found
      exact same ▸ List.mem_cons_self
    · exact List.mem_cons_of_mem _ (ih found)

/-- Every member is found, since no other has its name. -/
theorem Ordered.get?_of_mem (ordered : Ordered ms) {m : String × α} (member : m ∈ ms) :
    get? ms m.1 = some m.2 := by
  induction ms with
  | nil => cases member
  | cons n ms ih =>
    obtain ⟨above, rest⟩ := List.pairwise_cons.mp ordered
    rcases List.mem_cons.mp member with rfl | later
    · rw [get?, if_pos rfl]
    · have other : n.1 ≠ m.1 := fun same => String.lt_irrefl _ (same ▸ above m later)
      rw [get?, if_neg other]
      exact ih rest later

/-! ## Looking names up -/

section Lookups

variable {σ ε : Type} {set : σ → String × α → Except ε σ} {names : List String}

/-- Give a name the value it has among members, if it has one. -/
def setNamed (set : σ → String × α → Except ε σ) (ms : Members α) (s : σ) (name : String) :
    Except ε σ :=
  match ms.get? name with
  | some v => set s (name, v)
  | none => .ok s

theorem setNamed_none {s : σ} (absent : ms.get? key = none) : setNamed set ms s key = .ok s := by
  rw [setNamed, absent]

/-- What is read under a name, or else a default. -/
def readOr {β : Type} (ms : Members α) (name : String) (read : α → Except ε β) (default : β) :
    Except ε β :=
  match ms.get? name with
  | some v => read v
  | none => .ok default

/-- A name whose value goes to a place that holds the default until then. -/
theorem setNamed_bind {β γ : Type} (set : σ → String × α → Except ε σ) {name : String} {s : σ}
    (read : α → Except ε β) (default : β) (put : β → σ)
    (known : ∀ v, set s (name, v) = (read v).map put) (kept : put default = s)
    {next : σ → Except ε γ} {next' : β → Except ε γ} (rest : ∀ x, next (put x) = next' x) :
    (setNamed set ms s name >>= next) = ms.readOr name read default >>= next' := by
  obtain rfl : (fun x => next (put x)) = next' := funext rest
  rw [setNamed, readOr]
  cases ms.get? name with
  | some v =>
    dsimp only
    rw [known]
    cases read v <;> rfl
  | none => exact congrArg next kept.symm

/-- Names that no member has are skipped. -/
theorem foldlM_setNamed_skip {before : List String} (after : List String)
    (absent : ∀ name ∈ before, ms.get? name = none) (s : σ) :
    (before ++ after).foldlM (setNamed set ms) s = after.foldlM (setNamed set ms) s := by
  induction before with
  | nil => rfl
  | cons name before ih =>
    rw [List.cons_append, List.foldlM_cons, setNamed_none (absent name List.mem_cons_self)]
    exact ih fun n later => absent n (List.mem_cons_of_mem _ later)

/-- A member is not noticed where other names are looked up. -/
theorem foldlM_setNamed_cons {m : String × α} (others : ∀ name ∈ names, m.1 ≠ name) (s : σ) :
    names.foldlM (setNamed set (m :: ms)) s = names.foldlM (setNamed set ms) s := by
  induction names generalizing s with
  | nil => rfl
  | cons name names ih =>
    have same : setNamed set (m :: ms) s name = setNamed set ms s name := by
      rw [setNamed, get?, if_neg (others name List.mem_cons_self), setNamed]
    rw [List.foldlM_cons, List.foldlM_cons, same]
    exact bind_congr fun t => ih (fun n later => others n (List.mem_cons_of_mem _ later)) t

/-- To go through members in order is to look up in turn the names that matter. -/
theorem foldlM_eq_lookups (sorted : names.Pairwise (· < ·))
    (passes : ∀ s m, m.1 ∉ names → set s m = .ok s) (ordered : Ordered ms) (s : σ) :
    ms.foldlM set s = names.foldlM (setNamed set ms) s := by
  induction ms generalizing s with
  | nil =>
    have skipped : (names ++ []).foldlM (setNamed set ([] : Members α)) s = .ok s :=
      foldlM_setNamed_skip [] (fun _ _ => rfl) s
    rw [List.append_nil] at skipped
    exact skipped.symm
  | cons m ms ih =>
    obtain ⟨above, rest⟩ := List.pairwise_cons.mp ordered
    rw [List.foldlM_cons, bind_congr fun t => ih rest t]
    by_cases known : m.1 ∈ names
    · obtain ⟨before, after, rfl⟩ := List.append_of_mem known
      obtain ⟨-, sortedAfter, apart⟩ := List.pairwise_append.mp sorted
      -- The order leaves the member's name, and those before it, to nobody after it.
      have gone : ∀ name ∈ before ++ [m.1], get? ms name = none := by
        intro name member
        refine get?_eq_none fun n later same => ?_
        have beyond := above n later
        rcases List.mem_append.mp member with early | here
        · have below := apart name early m.1 List.mem_cons_self
          exact String.lt_asymm below (same ▸ beyond)
        · exact String.lt_irrefl _ (List.mem_singleton.mp here ▸ same ▸ beyond)
      have absent : ∀ name ∈ before, get? (m :: ms) name = none := by
        intro name early
        have below := apart name early m.1 List.mem_cons_self
        rw [get?, if_neg fun same => String.lt_irrefl _ (same ▸ below)]
        exact gone name (List.mem_append_left _ early)
      have others : ∀ name ∈ after, m.1 ≠ name := by
        intro name late same
        exact String.lt_irrefl _ (same ▸ (List.pairwise_cons.mp sortedAfter).1 name late)
      have here : setNamed set (m :: ms) s m.1 = set s m := by
        rw [setNamed, get?, if_pos rfl]
      rw [foldlM_setNamed_skip _ absent, List.foldlM_cons, here]
      refine bind_congr fun t => ?_
      rw [← List.singleton_append, ← List.append_assoc, foldlM_setNamed_skip _ gone,
        foldlM_setNamed_cons others]
    · rw [passes s m known, foldlM_setNamed_cons fun name member same => known (same ▸ member)]
      rfl

end Lookups

end Members

namespace Json

/-! ## Order at every depth -/

/-- The objects in a value have their members in order. -/
inductive Ordered : Json → Prop where
  | null : Ordered .null
  | bool (b : Bool) : Ordered (.bool b)
  | number (n : Number) : Ordered (.number n)
  | string (s : String) : Ordered (.string s)
  | array {items : List Json} (each : ∀ v ∈ items, v.Ordered) : Ordered (.array items)
  | object {ms : Members Json} (names : ms.Ordered) (each : ∀ m ∈ ms, m.2.Ordered) :
    Ordered (.object ms)

theorem Ordered.members {ms : Members Json} (ordered : (Json.object ms).Ordered) : ms.Ordered := by
  cases ordered with | object names _ => exact names

theorem Ordered.member {v w : Json} {key : String} (ordered : v.Ordered)
    (found : v.get? key = some w) : w.Ordered := by
  cases ordered with
  | object _ each => exact each _ (Members.mem_of_get? found)
  | _ => cases found

/-- What is found under a name, or null where nothing is. -/
theorem Ordered.getD_null {ms : Members Json} (ordered : (Json.object ms).Ordered) (key : String) :
    ((ms.get? key).getD .null).Ordered := by
  cases found : ms.get? key with
  | none => exact .null
  | some v => exact ordered.member (v := .object ms) found

theorem Ordered.insert {ms : Members Json} {v : Json} (ordered : (Json.object ms).Ordered)
    (fits : v.Ordered) (key : String) : (Json.object (ms.insert key v)).Ordered := by
  cases ordered with
  | object names each =>
    refine .object (names.insert key v) fun m member => ?_
    rcases Members.mem_insert member with rfl | old
    · exact fits
    · exact each m old

theorem Ordered.cons {items : List Json} {v : Json} (ordered : (Json.array items).Ordered)
    (fits : v.Ordered) : (Json.array (v :: items)).Ordered := by
  cases ordered with
  | array each => exact .array (List.forall_mem_cons.mpr ⟨fits, each⟩)

theorem Ordered.reverse {items : List Json} (ordered : (Json.array items).Ordered) :
    (Json.array items.reverse).Ordered := by
  cases ordered with
  | array each => exact .array fun v member => each v (List.mem_reverse.mp member)

theorem ordered_array_nil : (Json.array []).Ordered := .array (List.forall_mem_nil _)

theorem ordered_object_nil : (Json.object []).Ordered := .object .nil (List.forall_mem_nil _)

def Frame.Ordered : Frame → Prop
  | .array items => (Json.array items).Ordered
  | .object members _ => (Json.object members).Ordered

def State.Ordered : State → Prop
  | .value stack | .firstItem stack | .firstKey stack | .number _ stack
  | .string .value _ _ stack => ∀ f ∈ stack, f.Ordered
  | .nextItem items stack | .afterItem items stack =>
    (Json.array items).Ordered ∧ ∀ f ∈ stack, f.Ordered
  | .nextKey members stack | .colon members _ stack | .afterMember members stack
  | .string (.key members) _ _ stack => (Json.object members).Ordered ∧ ∀ f ∈ stack, f.Ordered
  | .word _ v stack => v.Ordered ∧ ∀ f ∈ stack, f.Ordered
  | .done v => v.Ordered

section Steps

variable {s t : State} {stack : List Frame} {c : Char}

theorem ordered_give {v : Json} (fits : v.Ordered) (stacked : ∀ f ∈ stack, f.Ordered) :
    (give v stack).Ordered := by
  cases stack with
  | nil => exact fits
  | cons f stack =>
    obtain ⟨top, rest⟩ := List.forall_mem_cons.mp stacked
    cases f with
    | array items => exact ⟨Json.Ordered.cons top fits, rest⟩
    | object members key => exact ⟨Json.Ordered.insert top fits key, rest⟩

theorem ordered_giveNumber {n : NumberDraft} (given : n.give stack = .ok t)
    (stacked : ∀ f ∈ stack, f.Ordered) : t.Ordered := by
  unfold NumberDraft.give at given
  split at given
  · cases given
    exact ordered_give (.number _) stacked
  · cases given

theorem ordered_startValue (taken : startValue c stack = .ok t)
    (stacked : ∀ f ∈ stack, f.Ordered) : t.Ordered := by
  unfold startValue at taken
  split_ifs at taken
  all_goals try (cases taken; first | exact stacked | exact ⟨by constructor, stacked⟩)
  split at taken <;> cases taken
  exact stacked

theorem ordered_afterValue (taken : afterValue s c = .ok t) (ordered : s.Ordered) :
    t.Ordered := by
  unfold afterValue at taken
  split at taken
  · cases taken
    exact ordered
  · cases s with
    | afterItem items stack =>
      obtain ⟨inside, stacked⟩ := ordered
      dsimp only at taken
      split_ifs at taken <;> cases taken
      · exact ⟨inside, stacked⟩
      · exact ordered_give inside.reverse stacked
    | afterMember members stack =>
      obtain ⟨inside, stacked⟩ := ordered
      dsimp only at taken
      split_ifs at taken <;> cases taken
      · exact ⟨inside, stacked⟩
      · exact ordered_give inside stacked
    | _ => cases taken

/-! A character keeps the order, state by state. -/

theorem ordered_step_value (taken : step (.value stack) c = .ok t)
    (stacked : ∀ f ∈ stack, f.Ordered) : t.Ordered := by
  simp only [step] at taken
  split at taken
  · cases taken
    exact stacked
  · exact ordered_startValue taken stacked

theorem ordered_step_firstItem (taken : step (.firstItem stack) c = .ok t)
    (stacked : ∀ f ∈ stack, f.Ordered) : t.Ordered := by
  simp only [step] at taken
  split_ifs at taken
  · cases taken
    exact stacked
  · cases taken
    exact ordered_give ordered_array_nil stacked
  · apply ordered_startValue taken
    exact List.forall_mem_cons.mpr ⟨ordered_array_nil, stacked⟩

theorem ordered_step_nextItem {items : List Json} (taken : step (.nextItem items stack) c = .ok t)
    (inside : (Json.array items).Ordered) (stacked : ∀ f ∈ stack, f.Ordered) : t.Ordered := by
  simp only [step] at taken
  split_ifs at taken
  · cases taken
    exact ⟨inside, stacked⟩
  · apply ordered_startValue taken
    exact List.forall_mem_cons.mpr ⟨inside, stacked⟩

theorem ordered_step_firstKey (taken : step (.firstKey stack) c = .ok t)
    (stacked : ∀ f ∈ stack, f.Ordered) : t.Ordered := by
  simp only [step] at taken
  split_ifs at taken <;> cases taken
  · exact stacked
  · exact ordered_give ordered_object_nil stacked
  · exact ⟨ordered_object_nil, stacked⟩

theorem ordered_step_nextKey {members : Members Json}
    (taken : step (.nextKey members stack) c = .ok t) (inside : (Json.object members).Ordered)
    (stacked : ∀ f ∈ stack, f.Ordered) : t.Ordered := by
  simp only [step] at taken
  split_ifs at taken <;> cases taken
  · exact ⟨inside, stacked⟩
  · exact ⟨inside, stacked⟩

theorem ordered_step_colon {members : Members Json} {key : String}
    (taken : step (.colon members key stack) c = .ok t) (inside : (Json.object members).Ordered)
    (stacked : ∀ f ∈ stack, f.Ordered) : t.Ordered := by
  simp only [step] at taken
  split_ifs at taken <;> cases taken
  · exact ⟨inside, stacked⟩
  · exact List.forall_mem_cons.mpr ⟨inside, stacked⟩

/-- A string that ends is a value of its own, or the key of a member. -/
theorem ordered_giveString {role : StringRole} {text : List Char} {mode : StringMode}
    (ordered : (State.string role text mode stack).Ordered) :
    (giveString text role stack).Ordered := by
  cases role with
  | value => exact ordered_give (.string _) ordered
  | key members => exact ordered

theorem ordered_step_string {role : StringRole} {text : List Char} {mode : StringMode}
    (taken : step (.string role text mode stack) c = .ok t)
    (ordered : (State.string role text mode stack).Ordered) : t.Ordered := by
  simp only [step] at taken
  split at taken
  · cases taken
    exact ordered_giveString ordered
  · split at taken <;> cases taken
    cases role with
    | value => exact ordered
    | key members => exact ordered

theorem ordered_step_number {draft : NumberDraft} (taken : step (.number draft stack) c = .ok t)
    (stacked : ∀ f ∈ stack, f.Ordered) : t.Ordered := by
  simp only [step] at taken
  split at taken
  · cases taken
    exact stacked
  · obtain ⟨u, given, after⟩ := bind_eq_ok taken
    exact ordered_afterValue after (ordered_giveNumber given stacked)
  · cases taken

theorem ordered_step_word {left : List Char} {v : Json} (taken : step (.word left v stack) c = .ok t)
    (fits : v.Ordered) (stacked : ∀ f ∈ stack, f.Ordered) : t.Ordered := by
  match left with
  | [] => exact ordered_afterValue taken (ordered_give fits stacked)
  | [l] =>
    simp only [step] at taken
    split at taken <;> cases taken
    exact ordered_give fits stacked
  | l :: m :: left =>
    simp only [step] at taken
    split at taken <;> cases taken
    exact ⟨fits, stacked⟩

/-- Each character keeps the order. -/
theorem State.ordered_step (taken : step s c = .ok t) (ordered : s.Ordered) : t.Ordered := by
  cases s with
  | value stack => exact ordered_step_value taken ordered
  | firstItem stack => exact ordered_step_firstItem taken ordered
  | nextItem items stack => exact ordered_step_nextItem taken ordered.1 ordered.2
  | firstKey stack => exact ordered_step_firstKey taken ordered
  | nextKey members stack => exact ordered_step_nextKey taken ordered.1 ordered.2
  | colon members key stack => exact ordered_step_colon taken ordered.1 ordered.2
  | string role text mode stack => exact ordered_step_string taken ordered
  | number draft stack => exact ordered_step_number taken ordered
  | word left v stack => exact ordered_step_word taken ordered.1 ordered.2
  | afterItem items stack => exact ordered_afterValue taken ordered
  | afterMember members stack => exact ordered_afterValue taken ordered
  | done v => exact ordered_afterValue taken ordered

theorem ordered_value? {v : Json} (ended : s.value? = .ok v) (ordered : s.Ordered) :
    v.Ordered := by
  cases s <;> cases ended
  exact ordered

theorem ordered_finish {v : Json} (finished : finish s = .ok v) (ordered : s.Ordered) :
    v.Ordered := by
  cases s with
  | number draft stack =>
    simp only [finish] at finished
    split at finished
    · obtain ⟨u, given, ended⟩ := bind_eq_ok finished
      exact ordered_value? ended (ordered_giveNumber given ordered)
    · cases finished
  | done w => cases finished; exact ordered
  | _ => cases finished

theorem ordered_foldlM {cs : List Char} (run : cs.foldlM step s = .ok t) (ordered : s.Ordered) :
    t.Ordered := by
  induction cs generalizing s with
  | nil => cases run; exact ordered
  | cons c cs ih =>
    rw [List.foldlM_cons] at run
    obtain ⟨u, taken, rest⟩ := bind_eq_ok run
    exact ih rest (State.ordered_step taken ordered)

end Steps

/-- What is read from a text is in order at every depth. -/
theorem ordered_of_parseChars {cs : List Char} {v : Json} (parsed : parseChars cs = .ok v) :
    v.Ordered := by
  obtain ⟨s, run, finished⟩ := bind_eq_ok parsed
  exact ordered_finish finished (ordered_foldlM run (List.forall_mem_nil _))

end Json

end StartSignal
