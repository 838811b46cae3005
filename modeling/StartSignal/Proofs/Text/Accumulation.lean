/-
# StartSignal.Proofs.Text.Accumulation -- numerals read into machine numbers

A numeral can be read one digit at a time into a number of some bits.  Each digit makes the
number ten times as great and is added; where there is no room for the product or for the sum,
the reading gives up (`place?`).  So it never goes on from a number that has wrapped around.

The numbers that are gone through only grow (`le_foldl`).  So the reading gives up exactly
when there is no room for the number the whole numeral stands for, however long the numeral is
and however many zeros lead it (`accumulate?_eq_some_iff`): reading step by step is reading the
numeral as it is written, for the numbers there is room for (`unsignedOf?_eq_some_iff`).
-/
import StartSignal.Proofs.Text.Numeral

namespace StartSignal.Text

variable {bits : Nat}

/-- A machine number with one more decimal digit, if there is room for it. -/
def place? (n : BitVec bits) (d : Nat) : Option (BitVec bits) :=
  if n.umulOverflow 10 then none
  else if (n * 10).uaddOverflow (.ofNat bits d) then none
  else some (n * 10 + .ofNat bits d)

/-- A machine number with more decimal digits, one at a time. -/
def accumulate? : BitVec bits → List Char → Option (BitVec bits)
  | n, [] => some n
  | n, c :: cs => do
    let d ← digitValue? c
    let m ← place? n d
    accumulate? m cs

/-- A non-empty run of digits, read one at a time into `bits` bits. -/
def digitsOf? (bits : Nat) : List Char → Option (BitVec bits)
  | [] => none
  | cs => accumulate? 0 cs

/-- An unsigned numeral, read one digit at a time into `bits` bits. -/
def unsignedOf? (bits : Nat) : List Char → Option (BitVec bits)
  | '+' :: cs => digitsOf? bits cs
  | cs => digitsOf? bits cs

/-! ## One digit -/

theorem place?_eq_some_iff (room : 10 < 2 ^ bits) {n m : BitVec bits} {d : Nat} (digit : d < 10) :
    place? n d = some m ↔ m.toNat = 10 * n.toNat + d := by
  have ten : (10 : BitVec bits).toNat = 10 := Nat.mod_eq_of_lt room
  have unit : (BitVec.ofNat bits d).toNat = d := Nat.mod_eq_of_lt (by omega)
  have bound := m.isLt
  unfold place? BitVec.umulOverflow BitVec.uaddOverflow
  simp only [ten, unit, decide_eq_true_eq, BitVec.toNat_mul]
  split
  · -- Ten times the number is too much.
    simp only [reduceCtorEq, false_iff]
    omega
  · rename_i fits
    have product : n.toNat * 10 % 2 ^ bits = n.toNat * 10 := Nat.mod_eq_of_lt (by omega)
    rw [product]
    split
    · simp only [reduceCtorEq, false_iff]
      omega
    · rename_i fits'
      have sum : (n * 10 + BitVec.ofNat bits d).toNat = 10 * n.toNat + d := by
        rw [BitVec.toNat_add, BitVec.toNat_mul, ten, unit, product, Nat.mod_eq_of_lt (by omega)]
        omega
      rw [Option.some.injEq, ← sum, BitVec.toNat_inj, eq_comm]

/-! ## A run of digits -/

/-- More digits make no number smaller. -/
theorem le_foldl (n : Nat) (ds : List Nat) : n ≤ ds.foldl (fun n d => 10 * n + d) n := by
  induction ds generalizing n with
  | nil => exact Nat.le_refl n
  | cons d ds ih =>
    calc n ≤ 10 * n + d := by omega
      _ ≤ ds.foldl (fun n d => 10 * n + d) (10 * n + d) := ih _

theorem accumulate?_eq_some_iff (room : 10 < 2 ^ bits) {n m : BitVec bits} {cs : List Char} :
    accumulate? n cs = some m ↔
      ∃ ds, digitValues? cs = some ds ∧ m.toNat = ds.foldl (fun n d => 10 * n + d) n.toNat := by
  induction cs generalizing n with
  | nil =>
    simp [accumulate?, digitValues?, BitVec.toNat_inj, eq_comm]
  | cons c cs ih =>
    simp only [accumulate?, digitValues?_eq_some_iff] at ih ⊢
    constructor
    · intro read
      obtain ⟨d, first, readOn⟩ := Option.bind_eq_some_iff.mp read
      obtain ⟨k, placed, readRest⟩ := Option.bind_eq_some_iff.mp readOn
      obtain ⟨digit, rfl⟩ := digitValue?_eq_some_iff.mp first
      obtain ⟨ds, ⟨digits, rfl⟩, value⟩ := ih.mp readRest
      rw [(place?_eq_some_iff room digit).mp placed] at value
      exact ⟨d :: ds, ⟨List.forall_mem_cons.mpr ⟨digit, digits⟩, rfl⟩, value⟩
    · rintro ⟨ds, ⟨digits, same⟩, value⟩
      cases ds with
      | nil => cases same
      | cons d ds =>
        obtain ⟨digit, digits⟩ := List.forall_mem_cons.mp digits
        obtain ⟨rfl, rfl⟩ := List.cons.inj same
        -- The number the digit leads to is no greater than the last one, which fits.
        have fits : 10 * n.toNat + d < 2 ^ bits := by
          have grown : 10 * n.toNat + d ≤ m.toNat := by
            rw [value]
            exact le_foldl _ ds
          exact Nat.lt_of_le_of_lt grown m.isLt
        have number : (BitVec.ofNat bits (10 * n.toNat + d)).toNat = 10 * n.toNat + d :=
          Nat.mod_eq_of_lt fits
        rw [digitValue?_digitChar digit, Option.bind_eq_bind, Option.bind_some,
          (place?_eq_some_iff room digit).mpr number]
        exact ih.mpr ⟨ds, ⟨digits, rfl⟩, by rw [number]; exact value⟩

theorem digitsOf?_eq_some_iff (room : 10 < 2 ^ bits) {m : BitVec bits} {cs : List Char} :
    digitsOf? bits cs = some m ↔ digits? cs = some m.toNat := by
  cases cs with
  | nil => simp [digitsOf?, digits?]
  | cons c cs =>
    have start : (0 : BitVec bits).toNat = 0 := BitVec.toNat_zero
    simp only [digitsOf?, digits?, accumulate?_eq_some_iff room, start, Option.map_eq_some_iff,
      ofDigits]
    constructor
    · rintro ⟨ds, values, number⟩
      exact ⟨ds, values, number.symm⟩
    · rintro ⟨ds, values, number⟩
      exact ⟨ds, values, number.symm⟩

/-- Reading into as many bits is reading the numeral, for the numbers there is room for. -/
theorem unsignedOf?_eq_some_iff (room : 10 < 2 ^ bits) {m : BitVec bits} {cs : List Char} :
    unsignedOf? bits cs = some m ↔ unsigned? cs = some m.toNat := by
  fun_cases unsigned? cs with
  | case1 cs => exact digitsOf?_eq_some_iff room
  | case2 cs bare =>
    rw [unsignedOf?]
    · exact digitsOf?_eq_some_iff room
    · exact bare

end StartSignal.Text
