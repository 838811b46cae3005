/-
# StartSignal.Proofs.Text.Lossy -- what is replaced, and by how much

The text of any bytes is that of its characters with one replacement character for each
maximal ill-formed subpart (`Lossy`): where no character can be read, the subpart is the
longest stretch with which the bytes of a character begin, or a single byte that begins none
(`IllFormed`).  There is one such text (`Lossy.unique`), and decoding finds it
(`lossy_decode`).

The invariant is `Reached`: what has been read since the last complete character begins the
bytes of one, and the bytes that the sequence under way allows are exactly those with which it
still does (`Reached.allows_iff`).

Main results: `lossy_decode`, `Lossy.unique`.
-/
import StartSignal.Proofs.Text.Utf8

namespace StartSignal.Text.Utf8

/-! ## The text that bytes stand for -/

/-- Bytes that one replacement character stands for, when these others come after them. -/
structure IllFormed (part rest : List UInt8) : Prop where
  nonempty : part ≠ []
  /-- No character can be read. -/
  unreadable : ∀ c, ¬ String.utf8EncodeChar c <+: part ++ rest
  /-- A character begins like this, unless it is a single byte. -/
  begins : part.length = 1 ∨ ∃ c, part <+: String.utf8EncodeChar c
  /-- With more bytes no character does. -/
  maximal : ∀ more, more ≠ [] → more <+: rest → ∀ c, ¬ part ++ more <+: String.utf8EncodeChar c

/-- The text of bytes, in which each maximal ill-formed subpart is replaced. -/
inductive Lossy : List UInt8 → List Char → Prop where
  | nil : Lossy [] []
  | char (c : Char) {rest : List UInt8} {cs : List Char} (after : Lossy rest cs) :
    Lossy (String.utf8EncodeChar c ++ rest) (c :: cs)
  | replaced {part rest : List UInt8} {cs : List Char} (illFormed : IllFormed part rest)
    (after : Lossy rest cs) : Lossy (part ++ rest) (replacement :: cs)

/-! ## Characters by their bytes -/

/-- No character begins with another. -/
theorem eq_of_prefix {c d : Char} {rest : List UInt8}
    (begins : String.utf8EncodeChar c <+: String.utf8EncodeChar d ++ rest) : c = d := by
  obtain ⟨more, same⟩ := begins
  have read := congrArg (decodeFrom none) same
  rw [decodeFrom_encodeChar, decodeFrom_encodeChar] at read
  exact (List.cons.inj read).1

theorem utf8EncodeChar_ne_nil (c : Char) : String.utf8EncodeChar c ≠ [] := by
  intro empty
  have read := decodeFrom_encodeChar c []
  rw [empty] at read
  cases read

theorem IllFormed.eq_nil {part more rest : List UInt8} (one : IllFormed part (more ++ rest))
    (other : IllFormed (part ++ more) rest) : more = [] := by
  by_cases none : more = []
  · exact none
  · exfalso
    rcases other.begins with single | ⟨c, begins⟩
    · have some := List.length_pos_iff.mpr one.nonempty
      have further := List.length_pos_iff.mpr none
      rw [List.length_append] at single
      omega
    · exact one.maximal more none (List.prefix_append more rest) c begins

/-- An ill-formed subpart ends where it does. -/
theorem IllFormed.eq {part rest part' rest' : List UInt8} (one : IllFormed part rest)
    (other : IllFormed part' rest') (same : part ++ rest = part' ++ rest') : part = part' := by
  rcases List.append_eq_append_iff.mp same with ⟨more, rfl, rfl⟩ | ⟨more, rfl, rfl⟩
  · rw [one.eq_nil other, List.append_nil]
  · rw [other.eq_nil one, List.append_nil]

/-- Bytes stand for one text only. -/
theorem Lossy.unique {bytes : List UInt8} {cs ds : List Char} (one : Lossy bytes cs)
    (other : Lossy bytes ds) : cs = ds := by
  induction one generalizing ds with
  | nil =>
    generalize same : [] = bytes at other
    cases other with
    | nil => rfl
    | char d after => exact absurd (List.append_eq_nil_iff.mp same.symm).1 (utf8EncodeChar_ne_nil d)
    | replaced illFormed after =>
      exact absurd (List.append_eq_nil_iff.mp same.symm).1 illFormed.nonempty
  | @char c rest cs after ih =>
    generalize same : String.utf8EncodeChar c ++ rest = bytes at other
    cases other with
    | nil => exact absurd (List.append_eq_nil_iff.mp same).1 (utf8EncodeChar_ne_nil c)
    | char d after' =>
      obtain rfl : c = d := eq_of_prefix ⟨rest, same⟩
      rw [ih (List.append_cancel_left same ▸ after')]
    | replaced illFormed after' => exact absurd ⟨rest, same⟩ (illFormed.unreadable c)
  | @replaced part rest cs illFormed after ih =>
    generalize same : part ++ rest = bytes at other
    cases other with
    | nil => exact absurd (List.append_eq_nil_iff.mp same).1 illFormed.nonempty
    | @char d rest' ds after' => exact absurd ⟨rest', same.symm⟩ (illFormed.unreadable d)
    | replaced illFormed' after' =>
      obtain rfl := illFormed.eq illFormed' same
      rw [ih (List.append_cancel_left same ▸ after')]

/-- Every byte that is read gives one character at most. -/
theorem Lossy.length_le {bytes : List UInt8} {cs : List Char} (lossy : Lossy bytes cs) :
    cs.length ≤ bytes.length := by
  induction lossy with
  | nil => exact Nat.le_refl 0
  | char c after ih =>
    have some := List.length_pos_iff.mpr (utf8EncodeChar_ne_nil c)
    rw [List.length_cons, List.length_append]
    omega
  | replaced illFormed after ih =>
    have some := List.length_pos_iff.mpr illFormed.nonempty
    rw [List.length_cons, List.length_append]
    omega

theorem Lossy.ne_nil {bytes : List UInt8} {cs : List Char} (lossy : Lossy bytes cs)
    (nonempty : bytes ≠ []) : cs ≠ [] := by
  cases lossy with
  | nil => exact absurd rfl nonempty
  | char c after => exact List.cons_ne_nil _ _
  | replaced illFormed after => exact List.cons_ne_nil _ _

/-! ## What decoding has read -/

/-- A byte yields text or leaves a sequence under way. -/
theorem step_yields (under : Option Partial) (b : UInt8) :
    (step under b).1 ≠ [] ∨ ∃ p, (step under b).2 = some p := by
  have start_yields : (start b).1 ≠ [] ∨ ∃ p, (start b).2 = some p := by
    unfold start
    cases Lead.ofByte b with
    | single c => exact .inl (List.cons_ne_nil _ _)
    | opens p => exact .inr ⟨p, rfl⟩
    | never => exact .inl (List.cons_ne_nil _ _)
  cases under with
  | none => exact start_yields
  | some p =>
    unfold step
    dsimp only
    split
    · split
      · exact .inl (List.cons_ne_nil _ _)
      · exact .inr ⟨_, rfl⟩
    · exact .inl (List.cons_ne_nil _ _)

theorem decodeFrom_some_ne_nil (p : Partial) (bytes : List UInt8) :
    decodeFrom (some p) bytes ≠ [] := by
  induction bytes generalizing p with
  | nil => exact List.cons_ne_nil _ _
  | cons b bytes ih =>
    rw [decodeFrom_cons]
    rcases step_yields (some p) b with text | ⟨q, next⟩
    · exact List.append_ne_nil_of_left_ne_nil text _
    · rw [next]
      exact List.append_ne_nil_of_right_ne_nil _ (ih q)

/-- Only no bytes are no text. -/
theorem decodeFrom_cons_ne_nil (b : UInt8) (bytes : List UInt8) :
    decodeFrom none (b :: bytes) ≠ [] := by
  rw [decodeFrom_cons]
  rcases step_yields none b with text | ⟨q, next⟩
  · exact List.append_ne_nil_of_left_ne_nil text _
  · rw [next]
    exact List.append_ne_nil_of_right_ne_nil _ (decodeFrom_some_ne_nil q bytes)

/-- A byte that the sequence under way does not allow is looked at afresh. -/
theorem decodeFrom_refused {p : Partial} {b : UInt8} (refused : ¬ p.allows b = true)
    (bytes : List UInt8) :
    decodeFrom (some p) (b :: bytes) = replacement :: decodeFrom none (b :: bytes) := by
  rw [decodeFrom_cons, step, if_neg refused, decodeFrom_cons]
  rfl

/-- The bytes that have been read before decoding got to the sequence under way. -/
structure Reached (under : Option Partial) (read : List UInt8) : Prop where
  pending : Pending under read
  /-- They have yielded nothing. -/
  silent : ∀ bytes, decodeFrom none (read ++ bytes) = decodeFrom under bytes
  /-- There is a way to go on. -/
  allowed : ∀ p, under = some p → ∃ b, p.allows b = true

theorem reached_nil : Reached none [] := ⟨.none, fun _ => rfl, nofun⟩

theorem allows_low {b : UInt8} {p : Partial} (opens : Lead.ofByte b = .opens p) :
    p.allows p.low = true := by
  unfold Lead.ofByte at opens
  repeat' split at opens
  all_goals cases opens <;> rfl

theorem reached_opens {b : UInt8} {p : Partial} (opens : Lead.ofByte b = .opens p) :
    Reached (some p) [b] := by
  constructor
  case pending => exact .some (completes_of_opens opens)
  case silent =>
    intro bytes
    refine decodeFrom_first ?_ bytes
    rw [start, opens]
  case allowed =>
    rintro q ⟨⟩
    exact ⟨p.low, allows_low opens⟩

variable {p : Partial} {read : List UInt8}

theorem Reached.completes (reached : Reached (some p) read) : Completes p.missing p read := by
  cases reached.pending with
  | some completes => exact completes

/-- A sequence that goes on without an end to it. -/
theorem Reached.more (reached : Reached (some p) read) {b : UInt8} (allowed : p.allows b = true)
    {m : Nat} (missing : p.missing = m + 2) :
    Reached (some (.plain (p.append b) (m + 1))) (read ++ [b]) := by
  have completes := reached.completes
  rw [missing] at completes
  constructor
  case pending => exact .some (completes.2 b allowed)
  case silent =>
    intro bytes
    rw [List.append_assoc, List.singleton_append, reached.silent,
      decodeFrom_allowed allowed missing]
  case allowed =>
    rintro q ⟨⟩
    exact ⟨0x80, rfl⟩

/-- Every byte that is allowed comes next in some character. -/
theorem Completes.exists_char {m : Nat} {p : Partial} {read : List UInt8}
    (completes : Completes m p read) {b : UInt8} (allowed : p.allows b = true) :
    ∃ c more, String.utf8EncodeChar c = read ++ b :: more := by
  induction m generalizing p read b with
  | zero => exact completes.elim
  | succ m ih =>
    cases m with
    | zero => exact ⟨_, [], completes.2 b allowed⟩
    | succ m =>
      obtain ⟨c, more, same⟩ := ih (completes.2 b allowed) (b := 0x80) rfl
      refine ⟨c, 0x80 :: more, ?_⟩
      rw [same, List.append_assoc, List.singleton_append]

/-- The bytes that are allowed are those that come next in some character. -/
theorem Reached.allows_iff (reached : Reached (some p) read) (b : UInt8) :
    p.allows b = true ↔ ∃ c, read ++ [b] <+: String.utf8EncodeChar c := by
  constructor
  · intro allowed
    obtain ⟨c, more, same⟩ := reached.completes.exists_char allowed
    refine ⟨c, more, ?_⟩
    rw [same, List.append_assoc, List.singleton_append]
  · rintro ⟨c, more, same⟩
    by_cases allowed : p.allows b = true
    · exact allowed
    · -- The byte would yield a character beside the one that is replaced.
      have read := decodeFrom_encodeChar c []
      rw [← same, List.append_nil, List.append_assoc, List.singleton_append, reached.silent,
        decodeFrom_refused allowed] at read
      exact absurd (List.cons.inj read).2 (decodeFrom_cons_ne_nil b more)

/-- What has been read is less than a character. -/
theorem Reached.short (reached : Reached (some p) read) (c : Char) :
    ¬ String.utf8EncodeChar c <+: read := by
  intro inside
  obtain ⟨b, allowed⟩ := reached.allowed p rfl
  obtain ⟨d, tail, whole⟩ := reached.completes.exists_char allowed
  -- It would be the character that has been begun, which is longer.
  have begins : String.utf8EncodeChar c <+: String.utf8EncodeChar d ++ [] := by
    rw [List.append_nil, whole]
    exact inside.trans (List.prefix_append _ _)
  obtain rfl : c = d := eq_of_prefix begins
  have le := inside.length_le
  rw [whole, List.length_append, List.length_cons] at le
  omega

section Stops

variable {rest : List UInt8} (stops : ∀ b more, rest = b :: more → ¬ p.allows b = true)
include stops

/-- Nothing that comes next goes on with what has been read. -/
theorem Reached.maximal (reached : Reached (some p) read) {more : List UInt8} (some : more ≠ [])
    (next : more <+: rest) (c : Char) : ¬ read ++ more <+: String.utf8EncodeChar c := by
  rintro ⟨tail, longer⟩
  obtain ⟨rest', rfl⟩ := next
  cases more with
  | nil => exact some rfl
  | cons b more =>
    refine stops b (more ++ rest') rfl ((reached.allows_iff b).mpr ⟨c, more ++ tail, ?_⟩)
    rw [← longer]
    simp

/-- A sequence under way that cannot go on is a maximal ill-formed subpart. -/
theorem Reached.illFormed (reached : Reached (some p) read) : IllFormed read rest := by
  constructor
  case nonempty =>
    rintro rfl
    cases reached.silent []
  case begins =>
    obtain ⟨b, allowed⟩ := reached.allowed p rfl
    obtain ⟨d, tail, whole⟩ := reached.completes.exists_char allowed
    exact .inr ⟨d, b :: tail, whole.symm⟩
  case maximal => exact fun more some next => reached.maximal stops some next
  case unreadable =>
    intro c readable
    rcases List.prefix_or_prefix_of_prefix readable (List.prefix_append read rest) with
      inside | ⟨more, long⟩
    · exact reached.short c inside
    · by_cases none : more = []
      · rw [none, List.append_nil] at long
        exact reached.short c (long ▸ List.prefix_refl _)
      · rw [← long] at readable
        have next : more <+: rest := (List.prefix_append_right_inj read).mp readable
        exact reached.maximal stops none next c (long ▸ List.prefix_refl _)

end Stops

/-- A byte that never starts a character is an ill-formed subpart of its own. -/
theorem illFormed_never {b : UInt8} (never : Lead.ofByte b = .never) (rest : List UInt8) :
    IllFormed [b] rest := by
  have first : ∀ c, ¬ [b] <+: String.utf8EncodeChar c := by
    rintro c ⟨more, same⟩
    have read := decodeFrom_encodeChar c []
    rw [← same, List.append_nil, List.singleton_append, decodeFrom_cons, step, start, never] at read
    obtain ⟨rfl, none⟩ := List.cons.inj read
    cases more with
    | nil => cases same
    | cons b more => exact decodeFrom_cons_ne_nil b more none
  constructor
  case nonempty => exact List.cons_ne_nil _ _
  case begins => exact .inl rfl
  case maximal =>
    intro more _ _ c longer
    exact first c ((List.prefix_append [b] more).trans longer)
  case unreadable =>
    rintro c ⟨more, same⟩
    cases bytes : String.utf8EncodeChar c with
    | nil => exact utf8EncodeChar_ne_nil c bytes
    | cons b' tail =>
      rw [bytes] at same
      obtain ⟨rfl, -⟩ := List.cons.inj same
      exact first c ⟨tail, bytes.symm⟩

section Next

variable {bytes : List UInt8}
  (next : ∀ {under read}, Reached under read → Lossy (read ++ bytes) (decodeFrom under bytes))
include next

/-- A byte with no sequence under way. -/
theorem lossy_afresh (b : UInt8) : Lossy (b :: bytes) (decodeFrom none (b :: bytes)) := by
  rw [decodeFrom_cons, step, start]
  cases lead : Lead.ofByte b with
  | single c =>
    have text := Lossy.char c (next reached_nil)
    rw [utf8EncodeChar_of_single lead] at text
    exact text
  | opens p => exact next (reached_opens lead)
  | never => exact .replaced (illFormed_never lead bytes) (next reached_nil)

/-- A byte that the sequence under way allows. -/
theorem Reached.lossy_allowed (reached : Reached (some p) read) {b : UInt8}
    (allowed : p.allows b = true) :
    Lossy (read ++ b :: bytes) (decodeFrom (some p) (b :: bytes)) := by
  have completes := reached.completes
  rcases missing : p.missing with _ | _ | m
  · rw [missing] at completes
    exact completes.elim
  · rw [missing] at completes
    have text := Lossy.char (Char.ofNat (p.append b)) (next reached_nil)
    rw [completes.2 b allowed, List.append_assoc] at text
    rw [decodeFrom_completed allowed (Nat.le_of_eq missing)]
    exact text
  · have text := next (reached.more allowed missing)
    rw [List.append_assoc] at text
    rw [decodeFrom_allowed allowed missing]
    exact text

end Next

/-- Decoding goes on with the text of all that has not been yielded. -/
theorem lossy_decodeFrom {under : Option Partial} {read : List UInt8}
    (reached : Reached under read) (bytes : List UInt8) :
    Lossy (read ++ bytes) (decodeFrom under bytes) := by
  induction bytes generalizing under read with
  | nil =>
    cases under with
    | none =>
      cases reached.pending
      exact .nil
    | some p => exact .replaced (reached.illFormed nofun) .nil
  | cons b bytes ih =>
    cases under with
    | none =>
      cases reached.pending
      exact lossy_afresh ih b
    | some p =>
      by_cases allowed : p.allows b = true
      · exact reached.lossy_allowed ih allowed
      · rw [decodeFrom_refused allowed]
        refine .replaced (reached.illFormed ?_) (lossy_afresh ih b)
        rintro b' more ⟨⟩
        exact allowed

/-- Decoding gives the text in which each maximal ill-formed subpart is replaced. -/
theorem lossy_decode (bytes : List UInt8) : Lossy bytes (decode bytes) :=
  lossy_decodeFrom reached_nil bytes

/-! ## Well-formed bytes -/

theorem isValidUTF8_iff {bytes : List UInt8} :
    bytes.toByteArray.IsValidUTF8 ↔ ∃ cs, bytes = encode cs := by
  constructor
  · rintro ⟨cs, same⟩
    exact ⟨cs, List.toByteArray_inj.mp same⟩
  · rintro ⟨cs, rfl⟩
    exact ⟨cs, rfl⟩

/-- Well-formed bytes, and no others, are those of their text. -/
theorem toByteArray_text_iff {bytes : List UInt8} :
    (text bytes).toByteArray = bytes.toByteArray ↔ bytes.toByteArray.IsValidUTF8 := by
  rw [isValidUTF8_iff, text, String.toByteArray_ofList, List.utf8Encode, List.toByteArray_inj]
  constructor
  · intro same
    exact ⟨decode bytes, same.symm⟩
  · rintro ⟨cs, rfl⟩
    rw [decode_encode]
    rfl

/-- In the text of ill-formed bytes something is replaced. -/
theorem replacement_mem_of_invalid {bytes : List UInt8}
    (invalid : ¬ bytes.toByteArray.IsValidUTF8) : replacement ∈ decode bytes := by
  rcases encode_decode_or bytes with replaced | kept
  · exact replaced
  · exact absurd (isValidUTF8_iff.mpr ⟨decode bytes, kept.symm⟩) invalid

end StartSignal.Text.Utf8
