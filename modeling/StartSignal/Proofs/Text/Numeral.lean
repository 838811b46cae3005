/-
# StartSignal.Proofs.Text.Numeral -- numerals between blanks

An unsigned numeral is a run of decimal digits after at most one plus sign (`IsNumeral`).
What is read from a text that is trimmed first is a numeral with blanks on either side
(`Reads`).  How a numeral looks character by character, and what its digits are worth by their
places, is `Spells`; it comes to the same (`isNumeral_iff`), between blanks too (`Spelled`).

Main results: `unsigned?_trim_eq_some_iff`, `isNumeral_iff`.
-/
import Mathlib.Data.Nat.Digits.Defs
import StartSignal.Proofs.Text.Trim
import StartSignal.Text.Numeral

namespace StartSignal.Text

/-- Decimal digits, after a plus sign or not, that stand for a number. -/
def IsNumeral (cs : List Char) (n : Nat) : Prop :=
  ∃ ds : List Nat, ds ≠ [] ∧ (∀ d ∈ ds, d < 10) ∧ ofDigits ds = n ∧
    (cs = ds.map digitChar ∨ cs = '+' :: ds.map digitChar)

/-- A numeral between blanks. -/
def Reads (cs : List Char) (n : Nat) : Prop :=
  ∃ before numeral after, cs = before ++ numeral ++ after ∧ IsNumeral numeral n ∧
    (∀ c ∈ before, isBlank c = true) ∧ ∀ c ∈ after, isBlank c = true

/-- The number that decimal digits stand for: the last one counts ones, the one before it tens,
and so on. -/
def valueOf (digits : List Char) : Nat :=
  Nat.ofDigits 10 (digits.reverse.map fun c => c.toNat - '0'.toNat)

/-- How a number is spelled: a plus sign or none, and one digit or more. -/
def Spells (cs : List Char) (n : Nat) : Prop :=
  ∃ sign digits, cs = sign ++ digits ∧ (sign = [] ∨ sign = ['+']) ∧ digits ≠ [] ∧
    (∀ c ∈ digits, c.isDigit = true) ∧ valueOf digits = n

/-- A spelled number between blanks. -/
def Spelled (cs : List Char) (n : Nat) : Prop :=
  ∃ before numeral after, cs = before ++ numeral ++ after ∧ Spells numeral n ∧
    (∀ c ∈ before, isBlank c = true) ∧ ∀ c ∈ after, isBlank c = true

/-! ## Digits -/

theorem digitValue?_digitChar {d : Nat} (digit : d < 10) : digitValue? (digitChar d) = some d := by
  have each : ∀ e < 10, digitValue? (digitChar e) = some e := by decide
  exact each d digit

theorem digitValue?_eq_some_iff {c : Char} {d : Nat} :
    digitValue? c = some d ↔ d < 10 ∧ c = digitChar d := by
  constructor
  · intro value
    unfold digitValue? at value
    split at value
    · rename_i digit
      have low : '0'.toNat = 48 := rfl
      have high : '9'.toNat = 57 := rfl
      have same : c.toNat - 48 = d := Option.some.inj value
      have code : '0'.toNat + d = c.toNat := by omega
      refine ⟨by omega, ?_⟩
      rw [digitChar, code, Char.ofNat_toNat]
    · cases value
  · rintro ⟨digit, rfl⟩
    exact digitValue?_digitChar digit

theorem digitValues?_eq_some_iff {cs : List Char} {ds : List Nat} :
    digitValues? cs = some ds ↔ (∀ d ∈ ds, d < 10) ∧ cs = ds.map digitChar := by
  induction cs generalizing ds with
  | nil => cases ds <;> simp [digitValues?]
  | cons c cs ih =>
    unfold digitValues? at ih ⊢
    rw [List.mapM_cons]
    constructor
    · intro values
      obtain ⟨d, first, values⟩ := Option.bind_eq_some_iff.mp values
      obtain ⟨rest, others, same⟩ := Option.bind_eq_some_iff.mp values
      cases same
      obtain ⟨digit, rfl⟩ := digitValue?_eq_some_iff.mp first
      obtain ⟨digits, rfl⟩ := ih.mp others
      exact ⟨List.forall_mem_cons.mpr ⟨digit, digits⟩, rfl⟩
    · rintro ⟨digits, same⟩
      cases ds with
      | nil => cases same
      | cons d ds =>
        obtain ⟨digit, digits⟩ := List.forall_mem_cons.mp digits
        obtain ⟨rfl, rfl⟩ := List.cons.inj same
        rw [digitValue?_digitChar digit, ih.mpr ⟨digits, rfl⟩]
        rfl

theorem digits?_eq_some_iff {cs : List Char} {n : Nat} :
    digits? cs = some n ↔
      ∃ ds, ds ≠ [] ∧ (∀ d ∈ ds, d < 10) ∧ ofDigits ds = n ∧ cs = ds.map digitChar := by
  cases cs with
  | nil =>
    constructor
    · intro none
      cases none
    · rintro ⟨ds, some, -, -, same⟩
      exact absurd (List.map_eq_nil_iff.mp same.symm) some
  | cons c cs =>
    show (digitValues? (c :: cs)).map ofDigits = some n ↔ _
    rw [Option.map_eq_some_iff]
    constructor
    · rintro ⟨ds, values, number⟩
      obtain ⟨digits, same⟩ := digitValues?_eq_some_iff.mp values
      refine ⟨ds, ?_, digits, number, same⟩
      rintro rfl
      cases same
    · rintro ⟨ds, -, digits, number, same⟩
      exact ⟨ds, digitValues?_eq_some_iff.mpr ⟨digits, same⟩, number⟩

theorem digitChar_ne_plus {d : Nat} (digit : d < 10) : digitChar d ≠ '+' := by
  have each : ∀ e < 10, digitChar e ≠ '+' := by decide
  exact each d digit

theorem unsigned?_eq_some_iff {cs : List Char} {n : Nat} :
    unsigned? cs = some n ↔ IsNumeral cs n := by
  unfold unsigned? IsNumeral
  split
  · rename_i cs
    rw [digits?_eq_some_iff]
    constructor
    · rintro ⟨ds, some, digits, number, rfl⟩
      exact ⟨ds, some, digits, number, .inr rfl⟩
    · rintro ⟨ds, some, digits, number, bare | signed⟩
      · -- A digit is no plus sign.
        cases ds with
        | nil => cases bare
        | cons d ds =>
          have digit := digits d List.mem_cons_self
          exact absurd (List.cons.inj bare).1.symm (digitChar_ne_plus digit)
      · exact ⟨ds, some, digits, number, (List.cons.inj signed).2⟩
  · rename_i bare
    rw [digits?_eq_some_iff]
    constructor
    · rintro ⟨ds, some, digits, number, same⟩
      exact ⟨ds, some, digits, number, .inl same⟩
    · rintro ⟨ds, some, digits, number, same | signed⟩
      · exact ⟨ds, some, digits, number, same⟩
      · exact absurd signed (bare _)

/-- The numeral that is written for a number. -/
theorem exists_digits_decimal (n : Nat) : ∃ ds : List Nat,
    ds ≠ [] ∧ (∀ d ∈ ds, d < 10) ∧ ofDigits ds = n ∧ decimal n = ds.map digitChar := by
  induction n using decimal.induct with
  | case1 n small =>
    refine ⟨[n], List.cons_ne_nil _ _, by simpa using small, by simp [ofDigits], ?_⟩
    rw [decimal, if_pos small]
    rfl
  | case2 n large ih =>
    obtain ⟨ds, some, digits, number, same⟩ := ih
    refine ⟨ds ++ [n % 10], by simp, ?_, ?_, ?_⟩
    · intro d member
      rcases List.mem_append.mp member with early | last
      · exact digits d early
      · rw [List.mem_singleton.mp last]
        exact Nat.mod_lt n (by decide)
    · have whole : ofDigits (ds ++ [n % 10]) = 10 * ofDigits ds + n % 10 := by simp [ofDigits]
      rw [whole, number]
      omega
    · rw [decimal, if_neg large, same, List.map_append]
      rfl

theorem isNumeral_decimal (n : Nat) : IsNumeral (decimal n) n := by
  obtain ⟨ds, some, digits, number, same⟩ := exists_digits_decimal n
  exact ⟨ds, some, digits, number, .inl same⟩

/-! ## Spelling -/

theorem isDigit_iff {c : Char} : c.isDigit = true ↔ ∃ d < 10, c = digitChar d := by
  constructor
  · intro digit
    have range : '0'.toNat ≤ c.toNat ∧ c.toNat ≤ '9'.toNat := by
      simpa [Char.isDigit, UInt32.le_iff_toNat_le] using digit
    refine ⟨c.toNat - '0'.toNat, digitValue?_eq_some_iff.mp ?_⟩
    rw [digitValue?, if_pos range]
  · rintro ⟨d, digit, rfl⟩
    have each : ∀ e < 10, (digitChar e).isDigit = true := by decide
    exact each d digit

theorem toNat_digitChar {d : Nat} (digit : d < 10) : (digitChar d).toNat - '0'.toNat = d := by
  have each : ∀ e < 10, (digitChar e).toNat - '0'.toNat = e := by decide
  exact each d digit

theorem valueOf_map_digitChar {ds : List Nat} (digits : ∀ d ∈ ds, d < 10) :
    valueOf (ds.map digitChar) = ofDigits ds := by
  have values : (ds.map digitChar).map (fun c => c.toNat - '0'.toNat) = ds := by
    rw [List.map_map]
    calc ds.map _ = ds.map id :=
          List.map_congr_left fun d member => toNat_digitChar (digits d member)
      _ = ds := List.map_id ds
  rw [valueOf, List.map_reverse, values, Nat.ofDigits_eq_foldr, List.foldr_reverse, ofDigits]
  simp only [Nat.cast_id, Nat.add_comm]

/-- Digits are told by their values. -/
theorem exists_map_digitChar {cs : List Char} (digits : ∀ c ∈ cs, c.isDigit = true) :
    ∃ ds : List Nat, (∀ d ∈ ds, d < 10) ∧ cs = ds.map digitChar := by
  induction cs with
  | nil => exact ⟨[], List.forall_mem_nil _, rfl⟩
  | cons c cs ih =>
    obtain ⟨first, others⟩ := List.forall_mem_cons.mp digits
    obtain ⟨d, digit, rfl⟩ := isDigit_iff.mp first
    obtain ⟨ds, below, rfl⟩ := ih others
    exact ⟨d :: ds, List.forall_mem_cons.mpr ⟨digit, below⟩, rfl⟩

/-- Numerals are what spells numbers. -/
theorem isNumeral_iff {cs : List Char} {n : Nat} : IsNumeral cs n ↔ Spells cs n := by
  constructor
  · rintro ⟨ds, some, digits, rfl, shape⟩
    have isDigit : ∀ c ∈ ds.map digitChar, c.isDigit = true := by
      intro c member
      obtain ⟨d, among, rfl⟩ := List.mem_map.mp member
      exact isDigit_iff.mpr ⟨d, digits d among, rfl⟩
    have some' : ds.map digitChar ≠ [] := by simpa using some
    have value := valueOf_map_digitChar digits
    rcases shape with bare | signed
    · exact ⟨[], ds.map digitChar, bare, .inl rfl, some', isDigit, value⟩
    · exact ⟨['+'], ds.map digitChar, signed, .inr rfl, some', isDigit, value⟩
  · rintro ⟨sign, digits, rfl, shape, some, isDigit, rfl⟩
    obtain ⟨ds, below, rfl⟩ := exists_map_digitChar isDigit
    have some' : ds ≠ [] := by simpa using some
    refine ⟨ds, some', below, (valueOf_map_digitChar below).symm, ?_⟩
    rcases shape with rfl | rfl
    · exact .inl rfl
    · exact .inr rfl

/-! ## Blanks around a numeral -/

theorem IsNumeral.isDigit_or_plus {cs : List Char} {n : Nat} (numeral : IsNumeral cs n) :
    ∀ c ∈ cs, c.isDigit = true ∨ c = '+' := by
  obtain ⟨sign, digits, rfl, shape, -, isDigit, -⟩ := isNumeral_iff.mp numeral
  intro c member
  rcases List.mem_append.mp member with inSign | inDigits
  · rcases shape with rfl | rfl
    · cases inSign
    · exact .inr (List.mem_singleton.mp inSign)
  · exact .inl (isDigit c inDigits)

theorem isBlank_of_isDigit {c : Char} (digit : c.isDigit = true) : isBlank c = false := by
  obtain ⟨d, below, rfl⟩ := isDigit_iff.mp digit
  have each : ∀ e < 10, isBlank (digitChar e) = false := by decide
  exact each d below

theorem IsNumeral.solid {cs : List Char} {n : Nat} (numeral : IsNumeral cs n) :
    ∀ c ∈ cs, isBlank c = false := by
  intro c member
  rcases numeral.isDigit_or_plus c member with digit | rfl
  · exact isBlank_of_isDigit digit
  · decide

/-- What an unsigned numeral is that is read between blanks. -/
theorem unsigned?_trim_eq_some_iff {cs : List Char} {n : Nat} :
    unsigned? (trim cs) = some n ↔ Reads cs n := by
  rw [unsigned?_eq_some_iff]
  constructor
  · intro numeral
    obtain ⟨before, after, whole, blankBefore, blankAfter⟩ := exists_trim cs
    exact ⟨before, trim cs, after, whole, numeral, blankBefore, blankAfter⟩
  · rintro ⟨before, numeral, after, rfl, isNumeral, blankBefore, blankAfter⟩
    rw [trim_surrounded blankBefore (tight_of_solid isNumeral.solid) blankAfter]
    exact isNumeral

/-- A numeral between blanks is a spelled number between blanks. -/
theorem reads_iff_spelled {cs : List Char} {n : Nat} : Reads cs n ↔ Spelled cs n := by
  simp only [Reads, Spelled, isNumeral_iff]

end StartSignal.Text
