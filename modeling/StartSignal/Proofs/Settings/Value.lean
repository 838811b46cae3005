/-
# StartSignal.Proofs.Settings.Value -- what the values of a file stand for

A text stands for itself and a whole number for the number of any width that holds it.  Null
stands for a count that is left open, and a format goes by its word, alone or as the one
member of an object (`HoldsFormat`).  A table of texts is an object of them, in the same
order (`HoldsTable`).

To be decoded is to stand for something, and nothing else comes of a value than what it
stands for: `decodeText_eq_ok_iff`, `decodeUInt64_eq_ok_iff`, `decodeCount_eq_ok_iff`,
`decodeFormat_eq_ok_iff`, `decodeTable_eq_ok_iff`.
-/
import StartSignal.Proofs.Json.Ordered
import StartSignal.Settings.Decode

namespace StartSignal.Json

/-- The value of a count that may be left open. -/
def HoldsCount (v : Json) : Option UInt64 → Prop
  | none => v = .null
  | some n => v = .nat n.toNat

def HoldsFormat (v : Json) : Log.Format → Prop
  | .json => v = .string "json" ∨ v = .object [("json", .null)]
  | .text => v = .string "text" ∨ v = .object [("text", .null)]

/-- A table of texts as members. -/
def texts (ms : Members String) : Members Json := ms.map fun m => (m.1, .string m.2)

def HoldsTable (v : Json) (ms : Members String) : Prop := v = .object (texts ms)

/-! ## Texts and numbers -/

theorem decodeText_eq_ok_iff {v : Json} {x : String} : v.decodeText = .ok x ↔ v = .string x := by
  cases v <;> simp [decodeText, refuse]

theorem decodeNat_nat {limit n : Nat} (fits : n < limit) (expected : String) :
    (Json.nat n).decodeNat limit expected = .ok n := by
  have inside : (0 : Int) ≤ n ∧ (n : Int) < limit := by omega
  simp only [nat, decodeNat, if_pos inside, Int.toNat_natCast]

theorem decodeNat_eq_ok_iff {limit : Nat} {expected : String} {v : Json} {n : Nat} :
    v.decodeNat limit expected = .ok n ↔ v = .nat n ∧ n < limit := by
  constructor
  · intro read
    unfold decodeNat at read
    split at read
    · rename_i whole
      split at read
      · rename_i inside
        cases read
        refine ⟨?_, by omega⟩
        rw [nat, Int.toNat_of_nonneg inside.1]
      · cases read
    · cases read
  · rintro ⟨rfl, fits⟩
    exact decodeNat_nat fits expected

/-- A whole number is read at the width at which it is kept. -/
theorem decodeNat_map_eq_ok_iff {α : Type} {ofNat : Nat → α} {toNat : α → Nat} {limit : Nat}
    (below : ∀ x, toNat x < limit) (back : ∀ x, ofNat (toNat x) = x)
    (forth : ∀ n < limit, toNat (ofNat n) = n) {expected : String} {v : Json} {x : α} :
    (v.decodeNat limit expected).map ofNat = .ok x ↔ v = .nat (toNat x) := by
  rw [map_eq_ok_iff]
  constructor
  · rintro ⟨n, read, rfl⟩
    obtain ⟨rfl, fits⟩ := decodeNat_eq_ok_iff.mp read
    rw [forth n fits]
  · rintro rfl
    exact ⟨toNat x, decodeNat_nat (below x) expected, back x⟩

theorem decodeUInt16_eq_ok_iff {v : Json} {x : UInt16} :
    v.decodeUInt16 = .ok x ↔ v = .nat x.toNat :=
  decodeNat_map_eq_ok_iff (fun x => x.toNat_lt_size) (fun _ => UInt16.ofNat_toNat)
    fun _ fits => UInt16.toNat_ofNat_of_lt fits

theorem decodeUInt32_eq_ok_iff {v : Json} {x : UInt32} :
    v.decodeUInt32 = .ok x ↔ v = .nat x.toNat :=
  decodeNat_map_eq_ok_iff (fun x => x.toNat_lt_size) (fun _ => UInt32.ofNat_toNat)
    fun _ fits => UInt32.toNat_ofNat_of_lt fits

theorem decodeUInt64_eq_ok_iff {v : Json} {x : UInt64} :
    v.decodeUInt64 = .ok x ↔ v = .nat x.toNat :=
  decodeNat_map_eq_ok_iff (fun x => x.toNat_lt_size) (fun _ => UInt64.ofNat_toNat)
    fun _ fits => UInt64.toNat_ofNat_of_lt fits

theorem decodeCount_eq_ok_iff {v : Json} {x : Option UInt64} :
    v.decodeCount = .ok x ↔ v.HoldsCount x := by
  by_cases null : v = .null
  · subst null
    cases x <;> simp [decodeCount, HoldsCount, nat]
  · -- What is not null is read as a number, and never stands for an open count.
    have read : v.decodeCount =
        (v.decodeNat UInt64.size "usize").map fun n => some (UInt64.ofNat n) := by
      cases v with
      | null => exact absurd rfl null
      | _ => simp only [decodeCount]
    rw [read]
    cases x with
    | none => simp [map_eq_ok_iff, HoldsCount, null]
    | some x =>
      show _ ↔ v = .nat x.toNat
      have same : (v.decodeNat UInt64.size "usize").map (fun n => some (UInt64.ofNat n)) =
          .ok (some x) ↔ (v.decodeNat UInt64.size "usize").map UInt64.ofNat = .ok x := by
        simp only [map_eq_ok_iff, Option.some.injEq]
      rw [same]
      exact decodeNat_map_eq_ok_iff (fun x => x.toNat_lt_size) (fun _ => UInt64.ofNat_toNat)
        fun _ fits => UInt64.toNat_ofNat_of_lt fits

/-! ## Formats and tables -/

theorem formatOfWord_eq_ok_iff {word : String} {f : Log.Format} :
    formatOfWord word = .ok f ↔ word = f.name := by
  unfold formatOfWord
  split
  · rename_i json
    subst json
    cases f <;> simp [Log.Format.name]
  · split
    · rename_i text
      subst text
      cases f <;> simp [Log.Format.name]
    · cases f <;> simp_all

theorem holdsFormat_iff {v : Json} {f : Log.Format} :
    v.HoldsFormat f ↔ v = .string f.name ∨ v = .object [(f.name, .null)] := by
  cases f <;> rfl

theorem decodeFormat_eq_ok_iff {v : Json} {f : Log.Format} :
    v.decodeFormat = .ok f ↔ v.HoldsFormat f := by
  rw [holdsFormat_iff]
  constructor
  · intro read
    unfold decodeFormat at read
    split at read
    · exact .inl (congrArg _ (formatOfWord_eq_ok_iff.mp read))
    · obtain ⟨g, word, unit⟩ := bind_eq_ok read
      split at unit
      · cases unit
        rw [formatOfWord_eq_ok_iff.mp word]
        exact .inr rfl
      · cases unit
    · cases read
    · cases read
  · have read := formatOfWord_eq_ok_iff.mpr (rfl : f.name = f.name)
    rintro (rfl | rfl)
    · exact read
    · rw [decodeFormat, read]
      rfl

theorem decodeTexts_eq_ok_iff {ms : Members Json} {table : List (String × String)} :
    decodeTexts ms = .ok table ↔ ms = texts table := by
  induction ms generalizing table with
  | nil =>
    cases table <;> simp [decodeTexts, texts]
  | cons m ms ih =>
    obtain ⟨key, v⟩ := m
    simp only [decodeTexts, bind_eq_ok_iff, decodeText_eq_ok_iff, ih]
    constructor
    · rintro ⟨x, rfl, rest, rfl, same⟩
      cases same
      rfl
    · intro same
      cases table with
      | nil => cases same
      | cons row rest =>
        cases same
        exact ⟨row.2, rfl, rest, rfl, rfl⟩

theorem decodeTable_eq_ok_iff {v : Json} {ms : Members String} :
    v.decodeTable = .ok ms ↔ v.HoldsTable ms := by
  cases v with
  | object members =>
    rw [decodeTable, decodeTexts_eq_ok_iff, HoldsTable, object.injEq]
  | _ => simp [decodeTable, refuse, HoldsTable]

end StartSignal.Json
