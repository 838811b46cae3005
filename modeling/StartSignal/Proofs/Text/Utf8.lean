/-
# StartSignal.Proofs.Text.Utf8 -- what decoding loses

Decoding loses only what it replaces: bytes whose text has no replacement character are the
bytes of that text (`encode_decode_or`, `eq_encode_of_decode`).  It replaces nothing in the
bytes of a text (`decode_encode`).

The invariant is `Pending`: the bytes read since the last complete character are such that
every way in which the sequence under way may go on encodes the character it then yields
(`Completes`).  A lead byte opens such a sequence (`completes_of_opens`), each byte keeps
it or leaves a replacement character (`pending_step`), and so do all bytes together
(`pending_decodeFrom`).
-/
import StartSignal.Text.Utf8

namespace StartSignal.Text.Utf8

/-! ## Characters from their bits -/

theorem isValidChar_below {n : Nat} (low : n < 0xd800) : n.isValidChar := .inl low

theorem isValidChar_above {n : Nat} (low : 0xe000 ≤ n) (high : n < 0x110000) : n.isValidChar :=
  .inr ⟨low, high⟩

theorem toNat_val_ofNat {n : Nat} (valid : n.isValidChar) : (Char.ofNat n).val.toNat = n := by
  unfold Char.ofNat
  rw [dif_pos valid]
  rfl

theorem utf8EncodeChar_one {n : Nat} (high : n < 128) :
    String.utf8EncodeChar (Char.ofNat n) = [UInt8.ofNat n] := by
  have value : (Char.ofNat n).val.toNat = n := toNat_val_ofNat (isValidChar_below (by omega))
  have short : n ≤ 127 := by omega
  simp only [String.utf8EncodeChar, value, short, if_true]

theorem utf8EncodeChar_two {a b : Nat} (low : 2 ≤ a) (high : a < 32) (tail : b < 64) :
    String.utf8EncodeChar (Char.ofNat (a * 64 + b)) =
      [UInt8.ofNat (a + 192), UInt8.ofNat (b + 128)] := by
  have value : (Char.ofNat (a * 64 + b)).val.toNat = a * 64 + b :=
    toNat_val_ofNat (isValidChar_below (by omega))
  have long : ¬ a * 64 + b ≤ 127 := by omega
  have short : a * 64 + b ≤ 2047 := by omega
  have first : (a * 64 + b) / 64 % 32 = a := by omega
  have second : (a * 64 + b) % 64 = b := by omega
  simp only [String.utf8EncodeChar, value, long, short, if_true, if_false, first, second]

theorem utf8EncodeChar_three {a b c : Nat} (low : 32 ≤ a * 64 + b) (high : a < 16)
    (gap : a * 64 + b < 864 ∨ 896 ≤ a * 64 + b) (middle : b < 64) (tail : c < 64) :
    String.utf8EncodeChar (Char.ofNat ((a * 64 + b) * 64 + c)) =
      [UInt8.ofNat (a + 224), UInt8.ofNat (b + 128), UInt8.ofNat (c + 128)] := by
  generalize number : (a * 64 + b) * 64 + c = n
  have value : (Char.ofNat n).val.toNat = n := by
    rcases gap with below | above
    · exact toNat_val_ofNat (isValidChar_below (by omega))
    · exact toNat_val_ofNat (isValidChar_above (by omega) (by omega))
  have long : ¬ n ≤ 127 := by omega
  have longer : ¬ n ≤ 2047 := by omega
  have short : n ≤ 65535 := by omega
  have first : n / 4096 % 16 = a := by omega
  have second : n / 64 % 64 = b := by omega
  have third : n % 64 = c := by omega
  simp only [String.utf8EncodeChar, value, long, longer, short, if_true, if_false, first, second,
    third]

theorem utf8EncodeChar_four {a b c d : Nat} (low : 16 ≤ a * 64 + b) (high : a * 64 + b < 272)
    (second : b < 64) (third : c < 64) (tail : d < 64) :
    String.utf8EncodeChar (Char.ofNat (((a * 64 + b) * 64 + c) * 64 + d)) =
      [UInt8.ofNat (a + 240), UInt8.ofNat (b + 128), UInt8.ofNat (c + 128),
        UInt8.ofNat (d + 128)] := by
  generalize number : ((a * 64 + b) * 64 + c) * 64 + d = n
  have value : (Char.ofNat n).val.toNat = n :=
    toNat_val_ofNat (isValidChar_above (by omega) (by omega))
  have long : ¬ n ≤ 127 := by omega
  have longer : ¬ n ≤ 2047 := by omega
  have longest : ¬ n ≤ 65535 := by omega
  have digit1 : n / 262144 % 8 = a := by omega
  have digit2 : n / 4096 % 64 = b := by omega
  have digit3 : n / 64 % 64 = c := by omega
  have digit4 : n % 64 = d := by omega
  simp only [String.utf8EncodeChar, value, long, longer, longest, if_false, digit1, digit2, digit3,
    digit4]

/-! ## Sequences under way -/

/-- Every way in which a sequence may go on for `m` bytes, after the bytes read of it,
encodes the character that it then yields. -/
def Completes : Nat → Partial → List UInt8 → Prop
  | 0, _, _ => False
  | 1, p, read => p.missing = 1 ∧
      ∀ b, p.allows b = true → String.utf8EncodeChar (Char.ofNat (p.append b)) = read ++ [b]
  | m + 2, p, read => p.missing = m + 2 ∧
      ∀ b, p.allows b = true → Completes (m + 1) (.plain (p.append b) (m + 1)) (read ++ [b])

theorem Partial.append_eq (p : Partial) (b : UInt8) : p.append b = p.bits * 64 + b.toNat % 64 := by
  rw [Partial.append, UInt8.toNat_and]
  exact congrArg (p.bits * 64 + ·) (Nat.and_two_pow_sub_one_eq_mod b.toNat 6)

theorem Partial.allows_iff (p : Partial) (b : UInt8) :
    p.allows b = true ↔ p.low.toNat ≤ b.toNat ∧ b.toNat ≤ p.high.toNat := by
  simp [Partial.allows, UInt8.le_iff_toNat_le]

theorem allows_plain {bits missing : Nat} {b : UInt8} :
    (Partial.plain bits missing).allows b = true ↔ 128 ≤ b.toNat ∧ b.toNat ≤ 191 :=
  Partial.allows_iff _ b

/-- A continuation byte from the six bits it carries. -/
theorem ofNat_tail {b : UInt8} (low : 128 ≤ b.toNat) (high : b.toNat ≤ 191) :
    UInt8.ofNat (b.toNat % 64 + 128) = b := by
  have same : b.toNat % 64 + 128 = b.toNat := by omega
  rw [same, UInt8.ofNat_toNat]

theorem completes_two {b : UInt8} {bits : Nat} (lead : b.toNat = bits + 192) (low : 2 ≤ bits)
    (high : bits < 32) : Completes 1 (.plain bits 1) [b] := by
  refine ⟨rfl, fun c allowed => ?_⟩
  obtain ⟨above, below⟩ := allows_plain.mp allowed
  have tail : c.toNat % 64 < 64 := Nat.mod_lt _ (by decide)
  rw [Partial.append_eq]
  show String.utf8EncodeChar (Char.ofNat (bits * 64 + c.toNat % 64)) = [b, c]
  rw [utf8EncodeChar_two low high tail, ← lead, UInt8.ofNat_toNat, ofNat_tail above below]

/-- What the first byte of three opens: its second byte is narrowed to characters there are. -/
def Partial.three (bits : Nat) : Partial :=
  ⟨bits, 2, if bits = 0 then 0xa0 else 0x80, if bits = 13 then 0x9f else 0xbf⟩

/-- What the first byte of four opens. -/
def Partial.four (bits : Nat) : Partial :=
  ⟨bits, 3, if bits = 0 then 0x90 else 0x80, if bits = 4 then 0x8f else 0xbf⟩

/-- The second byte of three leaves out what fits in two bytes, and the surrogates. -/
theorem allows_three {bits : Nat} (high : bits < 16) {b : UInt8} :
    (Partial.three bits).allows b = true ↔ (128 ≤ b.toNat ∧ b.toNat ≤ 191) ∧
      32 ≤ bits * 64 + b.toNat % 64 ∧
      (bits * 64 + b.toNat % 64 < 864 ∨ 896 ≤ bits * 64 + b.toNat % 64) := by
  rw [Partial.allows_iff]
  simp only [Partial.three]
  by_cases least : bits = 0
  · subst least
    simp only [Nat.reduceEqDiff, if_true, if_false, UInt8.reduceToNat]
    omega
  · by_cases surrogate : bits = 13
    · subst surrogate
      simp only [Nat.reduceEqDiff, if_true, if_false, UInt8.reduceToNat]
      omega
    · simp only [least, surrogate, if_false, UInt8.reduceToNat]
      omega

/-- The second byte of four leaves out what fits in three bytes, and what is no character. -/
theorem allows_four {bits : Nat} (high : bits < 5) {b : UInt8} :
    (Partial.four bits).allows b = true ↔ (128 ≤ b.toNat ∧ b.toNat ≤ 191) ∧
      16 ≤ bits * 64 + b.toNat % 64 ∧ bits * 64 + b.toNat % 64 < 272 := by
  rw [Partial.allows_iff]
  simp only [Partial.four]
  by_cases least : bits = 0
  · subst least
    simp only [Nat.reduceEqDiff, if_true, if_false, UInt8.reduceToNat]
    omega
  · by_cases greatest : bits = 4
    · subst greatest
      simp only [Nat.reduceEqDiff, if_true, if_false, UInt8.reduceToNat]
      omega
    · simp only [least, greatest, if_false, UInt8.reduceToNat]
      omega

theorem completes_three {b : UInt8} {bits : Nat} (lead : b.toNat = bits + 224) (high : bits < 16) :
    Completes 2 (.three bits) [b] := by
  refine ⟨rfl, fun c allowed => ⟨rfl, fun d allowed' => ?_⟩⟩
  obtain ⟨⟨cLow, cHigh⟩, long, gap⟩ := (allows_three high).mp allowed
  obtain ⟨dLow, dHigh⟩ := allows_plain.mp allowed'
  have middle : c.toNat % 64 < 64 := Nat.mod_lt _ (by decide)
  have tail : d.toNat % 64 < 64 := Nat.mod_lt _ (by decide)
  rw [Partial.append_eq, Partial.append_eq]
  show String.utf8EncodeChar (Char.ofNat ((bits * 64 + c.toNat % 64) * 64 + d.toNat % 64)) =
    [b, c, d]
  rw [utf8EncodeChar_three long high gap middle tail, ← lead, UInt8.ofNat_toNat,
    ofNat_tail cLow cHigh, ofNat_tail dLow dHigh]

theorem completes_four {b : UInt8} {bits : Nat} (lead : b.toNat = bits + 240) (high : bits < 5) :
    Completes 3 (.four bits) [b] := by
  refine ⟨rfl, fun c allowed => ⟨rfl, fun d allowed' => ⟨rfl, fun e allowed'' => ?_⟩⟩⟩
  obtain ⟨⟨cLow, cHigh⟩, long, short⟩ := (allows_four high).mp allowed
  obtain ⟨dLow, dHigh⟩ := allows_plain.mp allowed'
  obtain ⟨eLow, eHigh⟩ := allows_plain.mp allowed''
  have second : c.toNat % 64 < 64 := Nat.mod_lt _ (by decide)
  have third : d.toNat % 64 < 64 := Nat.mod_lt _ (by decide)
  have tail : e.toNat % 64 < 64 := Nat.mod_lt _ (by decide)
  rw [Partial.append_eq, Partial.append_eq, Partial.append_eq]
  show String.utf8EncodeChar (Char.ofNat
    (((bits * 64 + c.toNat % 64) * 64 + d.toNat % 64) * 64 + e.toNat % 64)) = [b, c, d, e]
  rw [utf8EncodeChar_four long short second third tail, ← lead, UInt8.ofNat_toNat,
    ofNat_tail cLow cHigh, ofNat_tail dLow dHigh, ofNat_tail eLow eHigh]

/-- A byte that is a character of its own encodes it. -/
theorem utf8EncodeChar_of_single {b : UInt8} {c : Char} (single : Lead.ofByte b = .single c) :
    String.utf8EncodeChar c = [b] := by
  simp only [Lead.ofByte, UInt8.lt_iff_toNat_lt, UInt8.reduceToNat] at single
  split at single
  · rename_i short
    cases single
    rw [utf8EncodeChar_one short, UInt8.ofNat_toNat]
  · -- Every other byte opens a sequence or starts none.
    repeat' split at single
    all_goals cases single

/-- What a byte opens, by the number of bytes that it begins. -/
inductive Opened (b : UInt8) : Partial → Prop where
  | two {bits : Nat} (lead : b.toNat = bits + 192) (low : 2 ≤ bits) (high : bits < 32) :
    Opened b (.plain bits 1)
  | three {bits : Nat} (lead : b.toNat = bits + 224) (high : bits < 16) : Opened b (.three bits)
  | four {bits : Nat} (lead : b.toNat = bits + 240) (high : bits < 5) : Opened b (.four bits)

theorem opened_of_opens {b : UInt8} {p : Partial} (opens : Lead.ofByte b = .opens p) :
    Opened b p := by
  -- There are 256 bytes to look at.
  have each : ∀ n < 256, ∀ p ∈ (start (UInt8.ofNat n)).2,
      (p = .plain p.bits 1 ∧ n = p.bits + 192 ∧ 2 ≤ p.bits ∧ p.bits < 32) ∨
        (p = .three p.bits ∧ n = p.bits + 224 ∧ p.bits < 16) ∨
          (p = .four p.bits ∧ n = p.bits + 240 ∧ p.bits < 5) := by
    decide +kernel
  have found : p ∈ (start (UInt8.ofNat b.toNat)).2 := by
    rw [UInt8.ofNat_toNat, start, opens]
    rfl
  rcases each b.toNat b.toNat_lt p found with
    ⟨same, lead, low, high⟩ | ⟨same, lead, high⟩ | ⟨same, lead, high⟩ <;> rw [same]
  · exact .two lead low high
  · exact .three lead high
  · exact .four lead high

/-- A lead byte opens a sequence that completes. -/
theorem completes_of_opens {b : UInt8} {p : Partial} (opens : Lead.ofByte b = .opens p) :
    Completes p.missing p [b] := by
  cases opened_of_opens opens with
  | two lead low high => exact completes_two lead low high
  | three lead high => exact completes_three lead high
  | four lead high => exact completes_four lead high

/-! ## Decoding -/

/-- The bytes read since the last complete character, and the sequence they have opened. -/
inductive Pending : Option Partial → List UInt8 → Prop where
  | none : Pending none []
  | some {p : Partial} {read : List UInt8} (completes : Completes p.missing p read) :
    Pending (some p) read

/-- What a byte at the start of a character does: it is replaced, or nothing of it is lost. -/
theorem pending_start (b : UInt8) :
    replacement ∈ (start b).1 ∨
      ∃ read, Pending (start b).2 read ∧ encode (start b).1 ++ read = [b] := by
  unfold start
  cases lead : Lead.ofByte b with
  | single c =>
    right
    exact ⟨[], .none, by simp [encode, utf8EncodeChar_of_single lead]⟩
  | opens p => exact .inr ⟨[b], .some (completes_of_opens lead), rfl⟩
  | never => exact .inl (by simp)

/-- What a byte does: it leaves a replacement character, or nothing is lost. -/
theorem pending_step {under : Option Partial} {read : List UInt8} (pending : Pending under read)
    (b : UInt8) :
    replacement ∈ (step under b).1 ∨
      ∃ read', Pending (step under b).2 read' ∧ encode (step under b).1 ++ read' = read ++ [b] := by
  cases pending with
  | none => exact pending_start b
  | @some p read completes =>
    by_cases allowed : p.allows b = true
    · right
      cases missing : p.missing with
      | zero => rw [missing] at completes; exact completes.elim
      | succ m =>
        rw [missing] at completes
        cases m with
        | zero =>
          have last : p.missing ≤ 1 := by omega
          refine ⟨[], ?_, ?_⟩
          · simp only [step, allowed, last, if_true]
            exact .none
          · simp only [step, allowed, last, if_true]
            simp [encode, completes.2 b allowed]
        | succ m =>
          have more : ¬ p.missing ≤ 1 := by omega
          have left : p.missing - 1 = m + 1 := by omega
          refine ⟨read ++ [b], ?_, ?_⟩
          · simp only [step, allowed, more, left, if_true, if_false]
            exact .some (completes.2 b allowed)
          · simp only [step, allowed, more, if_true, if_false]
            rfl
    · exact .inl (by simp [step, allowed])

theorem decodeFrom_cons (under : Option Partial) (b : UInt8) (bytes : List UInt8) :
    decodeFrom under (b :: bytes) = (step under b).1 ++ decodeFrom (step under b).2 bytes := by
  cases under <;> rfl

theorem pending_decodeFrom {under : Option Partial} {read : List UInt8}
    (pending : Pending under read) (bytes : List UInt8) :
    replacement ∈ decodeFrom under bytes ∨ encode (decodeFrom under bytes) = read ++ bytes := by
  induction bytes generalizing under read with
  | nil =>
    cases pending with
    | none => exact .inr rfl
    | some completes => exact .inl (by simp [decodeFrom])
  | cons b bytes ih =>
    rw [decodeFrom_cons]
    rcases pending_step pending b with replaced | ⟨read', pending', kept⟩
    · exact .inl (List.mem_append_left _ replaced)
    · rcases ih pending' with replaced | same
      · exact .inl (List.mem_append_right _ replaced)
      · right
        rw [encode_append, same, ← List.append_assoc, kept, List.append_assoc,
          List.singleton_append]

/-- Decoding replaces something, or the text it gives is that of the bytes. -/
theorem encode_decode_or (bytes : List UInt8) :
    replacement ∈ decode bytes ∨ encode (decode bytes) = bytes :=
  pending_decodeFrom .none bytes

/-- A text without replacement characters comes from its own bytes alone. -/
theorem eq_encode_of_decode {bytes : List UInt8} {cs : List Char} (same : decode bytes = cs)
    (whole : replacement ∉ cs) : bytes = encode cs := by
  rcases encode_decode_or bytes with replaced | kept
  · rw [same] at replaced
    exact absurd replaced whole
  · rw [← same, kept]

/-! ## Reading back -/

theorem toNat_tail {b : Nat} (tail : b < 64) : (UInt8.ofNat (b + 128)).toNat = b + 128 :=
  UInt8.toNat_ofNat_of_lt' (Nat.lt_trans (Nat.add_lt_add_right tail 128) (by decide))

theorem append_tail (p : Partial) {b : Nat} (tail : b < 64) :
    p.append (UInt8.ofNat (b + 128)) = p.bits * 64 + b := by
  rw [Partial.append_eq, toNat_tail tail]
  omega

/-- The first byte of a character of several. -/
theorem decodeFrom_first {lead : UInt8} {p : Partial} (opens : start lead = ([], some p))
    (bytes : List UInt8) : decodeFrom none (lead :: bytes) = decodeFrom (some p) bytes := by
  rw [decodeFrom_cons, step, opens]
  rfl

/-- A byte that is allowed and leaves the sequence under way. -/
theorem decodeFrom_allowed {p : Partial} {b : UInt8} (allowed : p.allows b = true) {more : Nat}
    (missing : p.missing = more + 2) (bytes : List UInt8) :
    decodeFrom (some p) (b :: bytes) =
      decodeFrom (some (.plain (p.append b) (more + 1))) bytes := by
  have unfinished : ¬ p.missing ≤ 1 := by omega
  have left : p.missing - 1 = more + 1 := by omega
  rw [decodeFrom_cons, step, if_pos allowed, if_neg unfinished, left]
  rfl

/-- A byte that is allowed and completes the sequence. -/
theorem decodeFrom_completed {p : Partial} {b : UInt8} (allowed : p.allows b = true)
    (last : p.missing ≤ 1) (bytes : List UInt8) :
    decodeFrom (some p) (b :: bytes) = Char.ofNat (p.append b) :: decodeFrom none bytes := by
  rw [decodeFrom_cons, step, if_pos allowed, if_pos last]
  rfl

/-- A byte between the first and the last of a character. -/
theorem decodeFrom_more {p : Partial} (more : Nat) (missing : p.missing = more + 2) {b : Nat}
    (tail : b < 64) (allowed : p.allows (UInt8.ofNat (b + 128)) = true) (bytes : List UInt8) :
    decodeFrom (some p) (UInt8.ofNat (b + 128) :: bytes) =
      decodeFrom (some (.plain (p.bits * 64 + b) (more + 1))) bytes := by
  rw [decodeFrom_allowed allowed missing, append_tail p tail]

/-- The last byte of a character. -/
theorem decodeFrom_last (bits : Nat) {b : Nat} (tail : b < 64) (bytes : List UInt8) :
    decodeFrom (some (.plain bits 1)) (UInt8.ofNat (b + 128) :: bytes) =
      Char.ofNat (bits * 64 + b) :: decodeFrom none bytes := by
  have allowed : (Partial.plain bits 1).allows (UInt8.ofNat (b + 128)) = true := by
    rw [allows_plain, toNat_tail tail]
    omega
  rw [decodeFrom_completed allowed (Nat.le_refl 1), append_tail _ tail]
  rfl

theorem start_one {n : Nat} (high : n < 128) : start (UInt8.ofNat n) = ([Char.ofNat n], none) := by
  have each : ∀ n < 128, start (UInt8.ofNat n) = ([Char.ofNat n], none) := by decide +kernel
  exact each n high

theorem start_two {a : Nat} (low : 2 ≤ a) (high : a < 32) :
    start (UInt8.ofNat (a + 192)) = ([], some (.plain a 1)) := by
  have each : ∀ a < 32, 2 ≤ a → start (UInt8.ofNat (a + 192)) = ([], some (.plain a 1)) := by
    decide +kernel
  exact each a high low

theorem start_three {a : Nat} (high : a < 16) :
    start (UInt8.ofNat (a + 224)) = ([], some (.three a)) := by
  have each : ∀ a < 16, start (UInt8.ofNat (a + 224)) = ([], some (.three a)) := by decide +kernel
  exact each a high

theorem start_four {a : Nat} (high : a < 5) :
    start (UInt8.ofNat (a + 240)) = ([], some (.four a)) := by
  have each : ∀ a < 5, start (UInt8.ofNat (a + 240)) = ([], some (.four a)) := by decide +kernel
  exact each a high

/-! A character is read back from its bytes, by the number of them. -/

theorem decodeFrom_one {n : Nat} (high : n < 128) (bytes : List UInt8) :
    decodeFrom none (String.utf8EncodeChar (Char.ofNat n) ++ bytes) =
      Char.ofNat n :: decodeFrom none bytes := by
  rw [utf8EncodeChar_one high, List.singleton_append, decodeFrom_cons, step, start_one high]
  rfl

theorem decodeFrom_two {a b : Nat} (low : 2 ≤ a) (high : a < 32) (tail : b < 64)
    (bytes : List UInt8) :
    decodeFrom none (String.utf8EncodeChar (Char.ofNat (a * 64 + b)) ++ bytes) =
      Char.ofNat (a * 64 + b) :: decodeFrom none bytes := by
  rw [utf8EncodeChar_two low high tail]
  exact (decodeFrom_first (start_two low high) _).trans (decodeFrom_last a tail bytes)

theorem decodeFrom_three {a b c : Nat} (low : 32 ≤ a * 64 + b) (high : a < 16)
    (gap : a * 64 + b < 864 ∨ 896 ≤ a * 64 + b) (middle : b < 64) (tail : c < 64)
    (bytes : List UInt8) :
    decodeFrom none (String.utf8EncodeChar (Char.ofNat ((a * 64 + b) * 64 + c)) ++ bytes) =
      Char.ofNat ((a * 64 + b) * 64 + c) :: decodeFrom none bytes := by
  have allowed : (Partial.three a).allows (UInt8.ofNat (b + 128)) = true := by
    rw [allows_three high, toNat_tail middle]
    omega
  rw [utf8EncodeChar_three low high gap middle tail]
  refine (decodeFrom_first (start_three high) _).trans ?_
  exact (decodeFrom_more 0 rfl middle allowed _).trans (decodeFrom_last _ tail bytes)

theorem decodeFrom_four {a b c d : Nat} (low : 16 ≤ a * 64 + b) (high : a * 64 + b < 272)
    (second : b < 64) (third : c < 64) (tail : d < 64) (bytes : List UInt8) :
    decodeFrom none
        (String.utf8EncodeChar (Char.ofNat (((a * 64 + b) * 64 + c) * 64 + d)) ++ bytes) =
      Char.ofNat (((a * 64 + b) * 64 + c) * 64 + d) :: decodeFrom none bytes := by
  have lead : a < 5 := by omega
  have allowed : (Partial.four a).allows (UInt8.ofNat (b + 128)) = true := by
    rw [allows_four lead, toNat_tail second]
    omega
  have allowed' : (Partial.plain (a * 64 + b) 2).allows (UInt8.ofNat (c + 128)) = true := by
    rw [allows_plain, toNat_tail third]
    omega
  rw [utf8EncodeChar_four low high second third tail]
  refine (decodeFrom_first (start_four lead) _).trans ?_
  refine (decodeFrom_more 1 rfl second allowed _).trans ?_
  exact (decodeFrom_more 0 rfl third allowed' _).trans (decodeFrom_last _ tail bytes)

/-- A character is read back from its bytes, whatever comes after them. -/
theorem decodeFrom_encodeChar (c : Char) (bytes : List UInt8) :
    decodeFrom none (String.utf8EncodeChar c ++ bytes) = c :: decodeFrom none bytes := by
  obtain ⟨n, same, valid⟩ : ∃ n, c = Char.ofNat n ∧ n.isValidChar :=
    ⟨c.toNat, c.ofNat_toNat.symm, c.valid⟩
  subst same
  have bound : n < 0x110000 := by
    rcases valid with low | ⟨-, high⟩
    · omega
    · exact high
  by_cases one : n < 128
  · exact decodeFrom_one one bytes
  by_cases two : n < 0x800
  · obtain ⟨a, b, tail, rfl⟩ : ∃ a b, b < 64 ∧ n = a * 64 + b :=
      ⟨n / 64, n % 64, Nat.mod_lt _ (by decide), by omega⟩
    exact decodeFrom_two (by omega) (by omega) tail bytes
  by_cases three : n < 0x10000
  · obtain ⟨a, b, c, middle, tail, rfl⟩ : ∃ a b c, b < 64 ∧ c < 64 ∧ n = (a * 64 + b) * 64 + c :=
      ⟨n / 4096, n / 64 % 64, n % 64, Nat.mod_lt _ (by decide), Nat.mod_lt _ (by decide), by omega⟩
    have gap : a * 64 + b < 864 ∨ 896 ≤ a * 64 + b := by
      rcases valid with below | ⟨above, -⟩ <;> omega
    exact decodeFrom_three (by omega) (by omega) gap middle tail bytes
  · obtain ⟨a, b, c, d, second, third, tail, rfl⟩ : ∃ a b c d, b < 64 ∧ c < 64 ∧ d < 64 ∧
        n = ((a * 64 + b) * 64 + c) * 64 + d :=
      ⟨n / 262144, n / 4096 % 64, n / 64 % 64, n % 64, Nat.mod_lt _ (by decide),
        Nat.mod_lt _ (by decide), Nat.mod_lt _ (by decide), by omega⟩
    exact decodeFrom_four (by omega) (by omega) second third tail bytes

/-- A text is read back from its bytes. -/
theorem decode_encode (cs : List Char) : decode (encode cs) = cs := by
  induction cs with
  | nil => rfl
  | cons c cs ih =>
    show decodeFrom none (String.utf8EncodeChar c ++ encode cs) = c :: cs
    rw [decodeFrom_encodeChar]
    exact congrArg (c :: ·) ih

theorem decode?_encode (cs : List Char) : decode? (encode cs) = some cs := by
  rw [decode?, decode_encode, if_pos rfl]

theorem text_bytes (s : String) : text (bytes s) = s := by
  rw [text, bytes, decode_encode, String.ofList_toList]

end StartSignal.Text.Utf8
