/-
# StartSignal.Proofs.Settings.Range -- which texts give a number inside a range

A number of an unsigned type is read from the texts that spell it, as far as the type has room
for it and the range holds it, and from no other text (`parseInRange_eq_some_iff_reads`).
A spelled number has nothing in it but digits, a plus sign in front of them and blanks around
them (`Spelled.clean`); the usual mistakes are no spelling.

The numeral may be read in one piece and compared with the greatest number of the type, or one
digit at a time with a check at each; both come to the same.

Main result: `parseInRange_grammar`.
-/
import StartSignal.Proofs.Text.Accumulation
import StartSignal.Settings.Range

namespace StartSignal

/-! ## The numerals of a type -/

variable {w : Width}

theorem Width.numeral?_eq_some_iff (unsigned : w.signed = false) {cs : List Char} {i : Int} :
    w.numeral? cs = some i ↔
      ∃ n : Nat, i = n ∧ Text.unsigned? cs = some n ∧ (n : Int) ≤ w.high := by
  have low : w.low = 0 := by simp [Width.low, unsigned]
  simp only [Width.numeral?, unsigned, low, Option.filter_eq_some_iff, Bool.false_eq_true,
    if_false, Option.map_eq_some_iff, decide_eq_true_eq]
  constructor
  · rintro ⟨⟨n, read, rfl⟩, -, fits⟩
    exact ⟨n, rfl, read, fits⟩
  · rintro ⟨n, rfl, read, fits⟩
    exact ⟨⟨n, read, rfl⟩, Int.natCast_nonneg n, fits⟩

theorem Width.le_high_iff (unsigned : w.signed = false) {n : Nat} :
    (n : Int) ≤ w.high ↔ n < 2 ^ w.bits := by
  have high : w.high = ((2 ^ w.bits : Nat) : Int) - 1 := by
    simp only [Width.high, unsigned, Bool.false_eq_true, if_false]
    rfl
  rw [high]
  omega

theorem parseInRange_eq_some_iff_reads (unsigned : w.signed = false) {low high : Int}
    {raw : String} {i : Int} :
    parseInRange w low high raw = some i ↔
      ∃ n : Nat, i = n ∧ Text.Reads raw.toList n ∧ n < 2 ^ w.bits ∧ low ≤ n ∧ n ≤ high := by
  simp only [parseInRange, Option.filter_eq_some_iff, decide_eq_true_eq,
    Width.numeral?_eq_some_iff unsigned, Width.le_high_iff unsigned,
    Text.unsigned?_trim_eq_some_iff]
  constructor
  · rintro ⟨⟨n, rfl, reads, fits⟩, least, greatest⟩
    exact ⟨n, rfl, reads, fits, least, greatest⟩
  · rintro ⟨n, rfl, reads, fits, least, greatest⟩
    exact ⟨⟨n, rfl, reads, fits⟩, least, greatest⟩

/-! ## What is no spelling -/

namespace Text

variable {cs : List Char} {n : Nat}

theorem Spelled.unsigned?_trim (spelled : Spelled cs n) : unsigned? (trim cs) = some n :=
  unsigned?_trim_eq_some_iff.mpr (reads_iff_spelled.mpr spelled)

theorem Spelled.unique {m : Nat} (spelled : Spelled cs n) (spelled' : Spelled cs m) : n = m :=
  Option.some.inj (spelled.unsigned?_trim.symm.trans spelled'.unsigned?_trim)

theorem Spelled.solid (spelled : Spelled cs n) : ∀ c ∈ trim cs, isBlank c = false :=
  (unsigned?_eq_some_iff.mp spelled.unsigned?_trim).solid

/-- A spelled number has only digits, plus signs and blanks in it. -/
theorem Spelled.clean (spelled : Spelled cs n) :
    ∀ c ∈ cs, c.isDigit = true ∨ c = '+' ∨ isBlank c = true := by
  obtain ⟨before, numeral, after, rfl, isNumeral, blankBefore, blankAfter⟩ :=
    reads_iff_spelled.mpr spelled
  intro c member
  rcases List.mem_append.mp member with earlier | late
  · rcases List.mem_append.mp earlier with early | among
    · exact .inr (.inr (blankBefore c early))
    · rcases isNumeral.isDigit_or_plus c among with digit | plus
      · exact .inl digit
      · exact .inr (.inl plus)
  · exact .inr (.inr (blankAfter c late))

theorem Spelled.minus_notMem (spelled : Spelled cs n) : '-' ∉ cs := by
  intro member
  have clean := spelled.clean '-' member
  revert clean
  decide

theorem spelled_decimal (n : Nat) : Spelled (decimal n) n := by
  refine reads_iff_spelled.mp ⟨[], decimal n, [], ?_, isNumeral_decimal n, ?_, ?_⟩
  · rw [List.nil_append, List.append_nil]
  · exact List.forall_mem_nil _
  · exact List.forall_mem_nil _

end Text

/-! ## Reading -/

open Text (Spelled)

section

variable {low high i : Int} {raw : String}

theorem parseInRange_eq_some_iff_spelled (unsigned : w.signed = false) :
    parseInRange w low high raw = some i ↔
      ∃ n : Nat, i = n ∧ Spelled raw.toList n ∧ n < 2 ^ w.bits ∧ low ≤ n ∧ n ≤ high := by
  simp only [parseInRange_eq_some_iff_reads unsigned, Text.reads_iff_spelled]

theorem parseInRange_eq_none_iff (unsigned : w.signed = false) :
    parseInRange w low high raw = none ↔
      ¬ ∃ n : Nat, Spelled raw.toList n ∧ n < 2 ^ w.bits ∧ low ≤ n ∧ n ≤ high := by
  rw [Option.eq_none_iff_forall_ne_some]
  constructor
  · rintro never ⟨n, inside⟩
    exact never n ((parseInRange_eq_some_iff_spelled unsigned).mpr ⟨n, rfl, inside⟩)
  · intro never i read
    obtain ⟨n, -, inside⟩ := (parseInRange_eq_some_iff_spelled unsigned).mp read
    exact never ⟨n, inside⟩

/-- What spells no number is refused, wherever the ends are. -/
theorem parseInRange_of_unspelled (unsigned : w.signed = false)
    (unspelled : ∀ n, ¬ Spelled raw.toList n) : parseInRange w low high raw = none :=
  (parseInRange_eq_none_iff unsigned).mpr fun ⟨n, spelled, _⟩ => unspelled n spelled

theorem parseInRange_natText (unsigned : w.signed = false) (n : Nat) :
    parseInRange w low high (Text.natText n) =
      if n < 2 ^ w.bits ∧ low ≤ n ∧ n ≤ high then some (n : Int) else none := by
  have spelled : Spelled (Text.natText n).toList n := by
    rw [Text.natText, String.toList_ofList]
    exact Text.spelled_decimal n
  split
  · rename_i inside
    exact (parseInRange_eq_some_iff_spelled unsigned).mpr ⟨n, rfl, spelled, inside⟩
  · rename_i outside
    refine (parseInRange_eq_none_iff unsigned).mpr fun ⟨m, spelled', inside⟩ => outside ?_
    rw [spelled.unique spelled']
    exact inside

theorem parseInRange_eq_some_iff_unsignedOf? (unsigned : w.signed = false)
    (room : 10 < 2 ^ w.bits) :
    parseInRange w low high raw = some i ↔
      ∃ m : BitVec w.bits, Text.unsignedOf? w.bits (Text.trim raw.toList) = some m ∧
        i = m.toNat ∧ low ≤ i ∧ i ≤ high := by
  simp only [parseInRange_eq_some_iff_reads unsigned, ← Text.unsigned?_trim_eq_some_iff,
    Text.unsignedOf?_eq_some_iff room]
  constructor
  · rintro ⟨n, rfl, read, fits, inside⟩
    have number : (BitVec.ofNat w.bits n).toNat = n := Nat.mod_eq_of_lt fits
    exact ⟨.ofNat w.bits n, by rw [number]; exact read, by rw [number], inside⟩
  · rintro ⟨m, read, rfl, inside⟩
    exact ⟨m.toNat, rfl, read, m.isLt, inside⟩

end

/-! ## Main result -/

/-- How the numbers of an unsigned type are read that lie between two ends. -/
structure ReadsRange (w : Width) (low high : Int) : Prop where
  /-- A text is read if it spells a number that the type and the range have. -/
  accepts : ∀ raw i, parseInRange w low high raw = some i ↔
    ∃ n : Nat, i = n ∧ Spelled raw.toList n ∧ n < 2 ^ w.bits ∧ low ≤ n ∧ n ≤ high
  /-- No other text is read. -/
  refuses : ∀ raw, parseInRange w low high raw = none ↔
    ¬ ∃ n : Nat, Spelled raw.toList n ∧ n < 2 ^ w.bits ∧ low ≤ n ∧ n ≤ high
  /-- A sign alone is no number. -/
  lone : ∀ raw, Text.trim raw.toList = ['+'] ∨ Text.trim raw.toList = ['-'] →
    parseInRange w low high raw = none
  minus : ∀ raw : String, '-' ∈ raw.toList → parseInRange w low high raw = none
  /-- A blank may stand around a number, and not inside it. -/
  inner : ∀ raw, (∃ c ∈ Text.trim raw.toList, Text.isBlank c = true) →
    parseInRange w low high raw = none
  /-- A number that the type has no room for is no other number instead. -/
  beyond : ∀ raw n, Spelled raw.toList n → 2 ^ w.bits ≤ n → parseInRange w low high raw = none
  /-- Between ends that have crossed there is no number. -/
  crossed : high < low → ∀ raw, parseInRange w low high raw = none
  /-- A number is read from its own numeral if it lies inside. -/
  printed : ∀ n : Nat, parseInRange w low high (Text.natText n) =
    if n < 2 ^ w.bits ∧ low ≤ n ∧ n ≤ high then some (n : Int) else none
  /-- It is the same to read the digits one by one into a number of the type, with a check of
  each step. -/
  stepwise : 10 < 2 ^ w.bits → ∀ raw i, parseInRange w low high raw = some i ↔
    ∃ m : BitVec w.bits, Text.unsignedOf? w.bits (Text.trim raw.toList) = some m ∧
      i = m.toNat ∧ low ≤ i ∧ i ≤ high

/-- **A number inside a range is read from its spellings and from nothing else.** -/
theorem parseInRange_grammar (w : Width) (unsigned : w.signed = false) (low high : Int) :
    ReadsRange w low high := by
  constructor
  case accepts => exact fun raw i => parseInRange_eq_some_iff_spelled unsigned
  case refuses => exact fun raw => parseInRange_eq_none_iff unsigned
  case lone =>
    intro raw sign
    refine parseInRange_of_unspelled unsigned fun n spelled => ?_
    have read := spelled.unsigned?_trim
    rcases sign with plus | minus
    · rw [plus] at read
      cases read
    · rw [minus] at read
      cases read
  case minus =>
    intro raw member
    exact parseInRange_of_unspelled unsigned fun n spelled => spelled.minus_notMem member
  case inner =>
    rintro raw ⟨c, member, blank⟩
    refine parseInRange_of_unspelled unsigned fun n spelled => ?_
    have solid := spelled.solid c member
    rw [blank] at solid
    cases solid
  case beyond =>
    intro raw n spelled large
    refine (parseInRange_eq_none_iff unsigned).mpr fun ⟨m, spelled', fits, _⟩ => ?_
    rw [← spelled.unique spelled'] at fits
    omega
  case crossed =>
    intro crossed raw
    refine (parseInRange_eq_none_iff unsigned).mpr fun ⟨n, _, _, least, greatest⟩ => ?_
    omega
  case printed => exact parseInRange_natText unsigned
  case stepwise => exact fun room raw i => parseInRange_eq_some_iff_unsignedOf? unsigned room

/-- The greatest port between blanks, after a sign and zeros, is read; the number after it is
not. -/
theorem parseInRange_grammar_port : Width.u16.signed = false ∧
    parseInRange .u16 1 65535 "\t+00065535\u3000" = some 65535 ∧
    parseInRange .u16 1 65535 "65536" = none := by
  have port := parseInRange_grammar .u16 rfl 1 65535
  refine ⟨rfl, (port.accepts _ _).mpr ⟨65535, rfl, ?_, by decide, by decide, by decide⟩, ?_⟩
  · have digits : ∀ c ∈ "00065535".toList, c.isDigit = true := List.all_eq_true.mp (by decide)
    refine ⟨['\t'], "+00065535".toList, ['\u3000'], by decide, ?_, ?_, ?_⟩
    · exact ⟨['+'], "00065535".toList, by decide, by decide, by decide, digits, by decide⟩
    · exact List.all_eq_true.mp (by decide)
    · exact List.all_eq_true.mp (by decide)
  · have digits : ∀ c ∈ "65536".toList, c.isDigit = true := List.all_eq_true.mp (by decide)
    refine port.beyond _ 65536 ⟨[], "65536".toList, [], by decide, ?_, ?_, ?_⟩ (by decide)
    · exact ⟨[], "65536".toList, by decide, by decide, by decide, digits, by decide⟩
    · exact List.forall_mem_nil _
    · exact List.forall_mem_nil _

end StartSignal
