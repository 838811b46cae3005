/-
# StartSignal.Proofs.Json.Printed -- values read back from their text

The parser reads back what the printer writes, for values without doubles whose whole numbers
stay exact and whose containers are not too deep (`Plain`).

The parser is a fold, so what it makes of a text is put together from what it makes of the
parts of the text (`Leads`).  Wherever a value may begin (`State.Awaits`), the characters of a
value lead to a state in which it has ended (`Ends`): the state after the value, or that of a
number which nothing but the next character tells to be over.  This goes by induction on the
value; the items of an array and the members of an object are read one after the other on top
of those read already.

Main result: `parseChars_chars`.
-/
import StartSignal.Json.Printer
import StartSignal.Proofs.Json.Ordered
import StartSignal.Proofs.Text.Numeral

namespace StartSignal.Json

open Text

/-- The values that are read back: containers inside each other to a depth, whole numbers that
fit in 64 bits, and members in the order of their names. -/
inductive Plain : Nat → Json → Prop where
  | null {depth : Nat} : Plain depth .null
  | bool {depth : Nat} (b : Bool) : Plain depth (.bool b)
  | number {depth : Nat} {n : Int} (low : -(UInt64.size : Int) ≤ 2 * n)
    (high : n < (UInt64.size : Int)) : Plain depth (.number (.whole n))
  | string {depth : Nat} (s : String) : Plain depth (.string s)
  | array {depth : Nat} {items : List Json} (each : ∀ v ∈ items, Plain depth v) :
    Plain (depth + 1) (.array items)
  | object {depth : Nat} {ms : Members Json} (names : ms.Ordered)
    (each : ∀ m ∈ ms, Plain depth m.2) : Plain (depth + 1) (.object ms)

/-! ## Reading a part of a text -/

/-- Reading some characters leads from one state to another. -/
def Leads (s : State) (cs : List Char) (t : State) : Prop := cs.foldlM step s = .ok t

section Leads

variable {s t u : State} {c : Char} {cs ds : List Char}

theorem Leads.nil (s : State) : Leads s [] s := rfl

theorem Leads.cons (first : step s c = .ok t) (rest : Leads t cs u) : Leads s (c :: cs) u := by
  rw [Leads, List.foldlM_cons, first]
  exact rest

theorem Leads.append (first : Leads s cs t) (rest : Leads t ds u) : Leads s (cs ++ ds) u := by
  unfold Leads at first
  rw [Leads, List.foldlM_append, first]
  exact rest

theorem Leads.single (only : step s c = .ok t) : Leads s [c] t := .cons only (.nil t)

end Leads

/-- A value may begin here, inside the open containers `stack`. -/
def State.Awaits (s : State) (stack : List Frame) : Prop :=
  ∀ c, isSpace c = false → c ≠ ']' → step s c = startValue c stack

theorem awaits_value (stack : List Frame) : (State.value stack).Awaits stack := by
  intro c solid _
  simp only [step, solid, Bool.false_eq_true, if_false]

theorem awaits_firstItem (stack : List Frame) :
    (State.firstItem stack).Awaits (.array [] :: stack) := by
  intro c solid notEnd
  simp only [step, solid, notEnd, Bool.false_eq_true, if_false]

theorem awaits_nextItem (items : List Json) (stack : List Frame) :
    (State.nextItem items stack).Awaits (.array items :: stack) := by
  intro c solid notEnd
  simp only [step, solid, notEnd, Bool.false_eq_true, if_false]

/-- A character that may come after a value inside a container. -/
def isClosing (c : Char) : Bool := c = ',' || c = ']' || c = '\x7d'

/-- A value has ended inside the open containers `stack`. -/
inductive Ends (v : Json) (stack : List Frame) : State → Prop where
  | given : Ends v stack (give v stack)
  /-- A number that no closing character continues. -/
  | number {draft : NumberDraft} (complete : draft.complete = true)
    (stops : ∀ c, isClosing c = true → draft.extend c = .ok none)
    (gives : draft.give stack = .ok (give v stack)) : Ends v stack (.number draft stack)

section Ends

variable {v : Json} {stack : List Frame} {t : State}

theorem Ends.step_eq (ends : Ends v stack t) {c : Char} (closing : isClosing c = true) :
    step t c = afterValue (give v stack) c := by
  cases ends with
  | given =>
    match stack with
    | [] => rfl
    | .array _ :: _ => rfl
    | .object _ _ :: _ => rfl
  | number _ stops gives =>
    simp only [step, stops c closing, gives]
    rfl

theorem Ends.finish_eq (ends : Ends v [] t) : finish t = .ok v := by
  cases ends with
  | given => rfl
  | number complete _ gives =>
    simp only [finish, complete, gives, if_true]
    rfl

end Ends

/-! ## Numbers -/

section Numbers

variable {s : State} {stack : List Frame}

/-- The draft of a whole number whose digits have been read. -/
def wholeDraft (negative : Bool) (n : Nat) (digits : List Nat) : NumberDraft :=
  ⟨if n = 0 then .zero else .whole, negative, digits, [], false, []⟩

/-- The digits of a number are read where its first digit may stand. -/
theorem leads_decimal {negative : Bool}
    (first : ∀ d < 10, step s (digitChar d) = .ok (.number (.ofDigit negative d) stack)) (n : Nat) :
    ∃ digits, ofDigits digits.reverse = n ∧
      Leads s (decimal n) (.number (wholeDraft negative n digits) stack) := by
  induction n using decimal.induct with
  | case1 n small =>
    refine ⟨[n], by simp [ofDigits], ?_⟩
    rw [decimal, if_pos small]
    exact .single (first n small)
  | case2 n large ih =>
    obtain ⟨digits, number, read⟩ := ih
    have positive : n / 10 ≠ 0 := by omega
    have digit : n % 10 < 10 := Nat.mod_lt n (by decide)
    refine ⟨n % 10 :: digits, ?_, ?_⟩
    · have whole : ofDigits (digits.reverse ++ [n % 10]) =
          10 * ofDigits digits.reverse + n % 10 := by
        simp [ofDigits]
      rw [List.reverse_cons, whole, number]
      omega
    · rw [decimal, if_neg large]
      refine read.append (.single ?_)
      have nonzero : n ≠ 0 := by omega
      simp only [step, NumberDraft.extend, wholeDraft, positive, nonzero, if_false,
        digitValue?_digitChar digit]

/-- A whole number whose digits have been read has ended. -/
theorem ends_wholeDraft {negative : Bool} {n : Nat} {digits : List Nat} {x : Number}
    (value : (wholeDraft negative n digits).number? = some x) :
    Ends (.number x) stack (.number (wholeDraft negative n digits) stack) := by
  have place : (wholeDraft negative n digits).place = .zero ∨
      (wholeDraft negative n digits).place = .whole := by
    unfold wholeDraft
    split
    · exact .inl rfl
    · exact .inr rfl
  refine .number ?_ ?_ ?_
  · rcases place with place | place <;> simp only [NumberDraft.complete, place]
  · intro c closing
    have notDigit : digitValue? c = none ∧ c ≠ '.' ∧ c ≠ 'e' ∧ c ≠ 'E' := by
      simp only [isClosing, Bool.or_eq_true, decide_eq_true_eq] at closing
      rcases closing with (rfl | rfl) | rfl <;> decide
    obtain ⟨notDigit, notPoint, notMark, notCapital⟩ := notDigit
    rcases place with place | place <;>
      simp only [NumberDraft.extend, place, notDigit, notPoint, notMark, notCapital, or_self,
        if_false]
  · simp only [NumberDraft.give, value]

theorem number?_unsigned {n : Nat} {digits : List Nat} (number : ofDigits digits.reverse = n)
    (fits : n < UInt64.size) : (wholeDraft false n digits).number? = some (.whole n) := by
  simp [NumberDraft.number?, NumberDraft.literal, wholeDraft, number, fits]

theorem number?_minus {n : Nat} {digits : List Nat} (number : ofDigits digits.reverse = n)
    (positive : 0 < n) (fits : 2 * n ≤ UInt64.size) :
    (wholeDraft true n digits).number? = some (.whole (-n)) := by
  simp [NumberDraft.number?, NumberDraft.literal, wholeDraft, number, positive, fits]

/-- What a digit is not. -/
theorem digitChar_notMem {d : Nat} (digit : d < 10) : isSpace (digitChar d) = false ∧
    digitChar d ∉ ['n', 't', 'f', '"', '-', '[', ']', '\x7b'] := by
  have each : ∀ d < 10, isSpace (digitChar d) = false ∧
      digitChar d ∉ ['n', 't', 'f', '"', '-', '[', ']', '\x7b'] := by decide
  exact each d digit

theorem leads_digit (awaits : s.Awaits stack) {d : Nat} (digit : d < 10) :
    step s (digitChar d) = .ok (.number (.ofDigit false d) stack) := by
  obtain ⟨solid, others⟩ := digitChar_notMem digit
  simp only [List.mem_cons, List.not_mem_nil, or_false, not_or] at others
  obtain ⟨n, t, f, quote, minus, bracket, closing, brace⟩ := others
  rw [awaits _ solid closing]
  simp only [startValue, n, t, f, quote, minus, bracket, brace, if_false,
    digitValue?_digitChar digit]

theorem leads_minus (awaits : s.Awaits stack) : step s '-' = .ok (.number .minus stack) :=
  awaits '-' rfl (by decide)

theorem leads_number (awaits : s.Awaits stack) {n : Int} (low : -(UInt64.size : Int) ≤ 2 * n)
    (high : n < (UInt64.size : Int)) :
    ∃ t, Leads s (Json.number (.whole n)).chars t ∧ Ends (.number (.whole n)) stack t := by
  show ∃ t, Leads s (intText n).toList t ∧ _
  by_cases negative : n < 0
  · have magnitude : n = -(n.natAbs : Int) := by omega
    have spelled : (intText n).toList = '-' :: decimal n.natAbs := by
      rw [intText, if_pos negative, String.toList_ofList]
    have first : ∀ d < 10,
        step (.number .minus stack) (digitChar d) = .ok (.number (.ofDigit true d) stack) := by
      intro d digit
      simp only [step, NumberDraft.extend, NumberDraft.minus, digitValue?_digitChar digit]
    obtain ⟨digits, number, read⟩ := leads_decimal first n.natAbs
    have value := number?_minus number (by omega) (by omega)
    rw [← magnitude] at value
    rw [spelled]
    exact ⟨_, .cons (leads_minus awaits) read, ends_wholeDraft value⟩
  · have magnitude : n = (n.natAbs : Int) := by omega
    have spelled : (intText n).toList = decimal n.natAbs := by
      rw [intText, if_neg negative, natText, String.toList_ofList]
    obtain ⟨digits, number, read⟩ :=
      leads_decimal (fun d digit => leads_digit awaits digit) n.natAbs
    have value := number?_unsigned number (by omega)
    rw [← magnitude] at value
    rw [spelled]
    exact ⟨_, read, ends_wholeDraft value⟩

end Numbers

/-! ## Strings -/

theorem hexDigitChar_spec {d : Nat} (digit : d < 16) :
    hexValue? (hexDigitChar d) = some d ∧ (hexDigitChar d).utf8Size = 1 := by
  have each : ∀ d < 16, hexValue? (hexDigitChar d) = some d ∧ (hexDigitChar d).utf8Size = 1 := by
    decide
  exact each d digit

theorem fourHex?_fourHex {n : Nat} (small : n < 65536) : fourHex? (fourHex n).reverse = some n := by
  have value : ∀ m, hexValue? (hexDigitChar (m % 16)) = some (m % 16) := fun m =>
    (hexDigitChar_spec (Nat.mod_lt m (by decide))).1
  have whole : ((n / 4096 % 16 * 16 + n / 256 % 16) * 16 + n / 16 % 16) * 16 + n % 16 = n := by
    omega
  simp only [fourHex, List.reverse_cons, List.reverse_nil, List.nil_append, List.cons_append,
    fourHex?, value, Option.bind_eq_bind, Option.bind_some, whole]
  rfl

section Strings

variable (role : StringRole) (text : List Char) (stack : List Frame)

def byteCount (cs : List Char) : Nat := cs.foldl (fun n c => n + c.utf8Size) 0

/-- A digit of an escape before the fourth. -/
theorem step_hex {seen : List Char} {c : Char} (short : byteCount (c :: seen) < 4) :
    step (.string role text (.hex none seen) stack) c =
      .ok (.string role text (.hex none (c :: seen)) stack) := by
  unfold byteCount at short
  simp only [step, stringStep, short, reduceCtorEq, and_false, if_false, if_true]

/-- The fourth digit of an escape of a character below the surrogates. -/
theorem step_lastHex {seen : List Char} {c : Char} {n : Nat} (full : ¬ byteCount (c :: seen) < 4)
    (value : fourHex? (c :: seen) = some n) (small : n < 0xd800) :
    step (.string role text (.hex none seen) stack) c =
      .ok (.string role (Char.ofNat n :: text) .plain stack) := by
  have noLow : ¬ (0xdc00 ≤ n ∧ n ≤ 0xdfff) := by omega
  have noHigh : ¬ (0xd800 ≤ n ∧ n ≤ 0xdbff) := by omega
  unfold byteCount at full
  simp only [step, stringStep, closeEscape, full, value, noLow, noHigh, reduceCtorEq, and_false,
    if_false]

theorem leads_fourHex {n : Nat} (small : n < 0xd800) :
    Leads (.string role text (.hex none []) stack) (fourHex n)
      (.string role (Char.ofNat n :: text) .plain stack) := by
  have size : ∀ m, (hexDigitChar (m % 16)).utf8Size = 1 := fun m =>
    (hexDigitChar_spec (Nat.mod_lt m (by decide))).2
  refine .cons (step_hex role text stack ?_) (.cons (step_hex role text stack ?_)
    (.cons (step_hex role text stack ?_) (.single (step_lastHex role text stack ?_ ?_ small))))
  case refine_5 => exact fourHex?_fourHex (Nat.lt_trans small (by decide))
  all_goals simp only [byteCount, List.foldl_cons, List.foldl_nil, size]
  all_goals decide

/-- A character that is spelled in a string is read as itself. -/
theorem leads_escapeChar (c : Char) :
    Leads (.string role text .plain stack) (escapeChar c)
      (.string role (c :: text) .plain stack) := by
  by_cases short : c ∈ ['"', '\\', '\x08', '\x0c', '\n', '\r', '\t']
  · -- An escape of one letter.
    simp only [List.mem_cons, List.not_mem_nil, or_false] at short
    rcases short with rfl | rfl | rfl | rfl | rfl | rfl | rfl <;>
      exact .cons rfl (.single rfl)
  · simp only [List.mem_cons, List.not_mem_nil, or_false, not_or] at short
    obtain ⟨quote, backslash, back, feed, line, carriage, tab⟩ := short
    simp only [escapeChar, quote, backslash, back, feed, line, carriage, tab, if_false]
    split
    · rename_i control
      have same : Char.ofNat c.toNat = c := c.ofNat_toNat
      have read := leads_fourHex role text stack (Nat.lt_trans control (by decide))
      rw [same] at read
      exact .cons rfl (.cons rfl read)
    · rename_i visible
      refine .single ?_
      simp only [step, stringStep, quote, backslash, visible, false_and, if_false]

theorem leads_stringChars (cs : List Char) :
    Leads (.string role text .plain stack) (cs.flatMap escapeChar)
      (.string role (cs.reverse ++ text) .plain stack) := by
  induction cs generalizing text with
  | nil => exact .nil _
  | cons c cs ih =>
    rw [List.flatMap_cons, List.reverse_cons, List.append_assoc]
    exact (leads_escapeChar role text stack c).append (ih (c :: text))

/-- The rest of a string after its quote. -/
theorem leads_stringRest (s : String) :
    Leads (.string role [] .plain stack) (s.toList.flatMap escapeChar ++ ['"'])
      (giveString s.toList.reverse role stack) := by
  have read := leads_stringChars role [] stack s.toList
  rw [List.append_nil] at read
  exact read.append (.single rfl)

end Strings

/-! ## Values -/

/-- Wherever a value may begin with so many containers inside it, its characters lead to its
end. -/
def IsRead (depth : Nat) (v : Json) : Prop :=
  ∀ s stack, s.Awaits stack → stack.length + depth ≤ maxDepth →
    ∃ t, Leads s v.chars t ∧ Ends v stack t

section Values

variable {depth : Nat} {v : Json} {stack : List Frame} {t : State}

/-- The rest of an array after one of its items. -/
theorem leads_itemChars {items vs : List Json} (each : ∀ v ∈ vs, IsRead depth v)
    (ends : Ends v (.array items :: stack) t) (room : stack.length + (depth + 1) ≤ maxDepth) :
    Leads t (itemChars vs) (give (.array ((v :: items).reverse ++ vs)) stack) := by
  induction vs generalizing v items t with
  | nil =>
    rw [itemChars, List.append_nil]
    exact .single (ends.step_eq rfl)
  | cons w vs ih =>
    obtain ⟨here, later⟩ := List.forall_mem_cons.mp each
    obtain ⟨u, read, ends'⟩ := here (.nextItem (v :: items) stack) (.array (v :: items) :: stack)
      (awaits_nextItem _ _) (by rw [List.length_cons]; omega)
    have rest := ih later ends'
    rw [List.reverse_cons, List.append_assoc] at rest
    rw [itemChars]
    exact .cons (ends.step_eq rfl) (read.append rest)

/-- The rest of a member after the quote of its name. -/
theorem leads_member (members : Members Json) (key : String) (fits : IsRead depth v)
    (room : stack.length + (depth + 1) ≤ maxDepth) :
    ∃ t, Leads (.string (.key members) [] .plain stack)
        (key.toList.flatMap escapeChar ++ ['"'] ++ ':' :: v.chars) t ∧
      Ends v (.object members key :: stack) t := by
  obtain ⟨t, read, ends⟩ := fits (.value (.object members key :: stack))
    (.object members key :: stack) (awaits_value _) (by rw [List.length_cons]; omega)
  have name := leads_stringRest (.key members) stack key
  rw [giveString, List.reverse_reverse, String.ofList_toList] at name
  exact ⟨t, name.append (.cons rfl read), ends⟩

/-- The rest of an object after one of its members. -/
theorem leads_memberChars {members ms : Members Json} {key : String}
    (each : ∀ m ∈ ms, IsRead depth m.2) (names : (members.insert key v ++ ms).Ordered)
    (ends : Ends v (.object members key :: stack) t)
    (room : stack.length + (depth + 1) ≤ maxDepth) :
    Leads t (memberChars ms) (give (.object (members.insert key v ++ ms)) stack) := by
  induction ms generalizing v members key t with
  | nil =>
    rw [memberChars, List.append_nil]
    exact .single (ends.step_eq rfl)
  | cons m ms ih =>
    obtain ⟨name, w⟩ := m
    obtain ⟨here, later⟩ := List.forall_mem_cons.mp each
    obtain ⟨u, read, ends'⟩ := leads_member (members.insert key v) name here room
    have last : ∀ m ∈ members.insert key v, m.1 < name := fun m member =>
      (List.pairwise_append.mp names).2.2 m member (name, w) List.mem_cons_self
    have inserted := Members.insert_of_last w last
    have whole : (members.insert key v).insert name w ++ ms =
        members.insert key v ++ (name, w) :: ms := by
      rw [inserted, List.append_assoc]
      rfl
    have rest := ih later (whole ▸ names) ends'
    rw [whole] at rest
    rw [memberChars]
    exact .cons (ends.step_eq rfl) (.cons rfl (read.append rest))

theorem isRead_null : IsRead depth .null := by
  intro s stack awaits _
  exact ⟨_, .cons (awaits 'n' rfl (by decide)) (.cons rfl (.cons rfl (.single rfl))), .given⟩

theorem isRead_bool (b : Bool) : IsRead depth (.bool b) := by
  intro s stack awaits _
  cases b with
  | true =>
    exact ⟨_, .cons (awaits 't' rfl (by decide)) (.cons rfl (.cons rfl (.single rfl))), .given⟩
  | false =>
    exact ⟨_, .cons (awaits 'f' rfl (by decide))
      (.cons rfl (.cons rfl (.cons rfl (.single rfl)))), .given⟩

theorem isRead_string (text : String) : IsRead depth (.string text) := by
  intro s stack awaits _
  have read := leads_stringRest .value stack text
  rw [giveString, List.reverse_reverse, String.ofList_toList] at read
  exact ⟨_, .cons (awaits '"' rfl (by decide)) read, .given⟩

theorem isRead_array {items : List Json} (each : ∀ v ∈ items, IsRead depth v) :
    IsRead (depth + 1) (.array items) := by
  intro s stack awaits room
  have inside : stack.length < maxDepth := by omega
  have opened : step s '[' = .ok (.firstItem stack) := by
    rw [awaits '[' rfl (by decide)]
    exact if_pos inside
  cases items with
  | nil => exact ⟨_, .cons opened (.single rfl), .given⟩
  | cons v vs =>
    obtain ⟨here, later⟩ := List.forall_mem_cons.mp each
    obtain ⟨t, read, ends⟩ := here (.firstItem stack) (.array [] :: stack)
      (awaits_firstItem _) (by rw [List.length_cons]; omega)
    exact ⟨_, .cons opened (read.append (leads_itemChars later ends room)), .given⟩

theorem isRead_object {ms : Members Json} (names : ms.Ordered)
    (each : ∀ m ∈ ms, IsRead depth m.2) : IsRead (depth + 1) (.object ms) := by
  intro s stack awaits room
  have inside : stack.length < maxDepth := by omega
  have opened : step s '\x7b' = .ok (.firstKey stack) := by
    rw [awaits '\x7b' rfl (by decide)]
    exact if_pos inside
  cases ms with
  | nil => exact ⟨_, .cons opened (.single rfl), .given⟩
  | cons m ms =>
    obtain ⟨name, w⟩ := m
    obtain ⟨here, later⟩ := List.forall_mem_cons.mp each
    obtain ⟨t, read, ends⟩ := leads_member [] name here room
    have rest := leads_memberChars later (show (Members.insert [] name w ++ ms).Ordered from names)
      ends room
    exact ⟨_, .cons opened (.cons rfl (read.append rest)), .given⟩

/-- Every value that is to be read back is. -/
theorem Plain.isRead (plain : Plain depth v) : IsRead depth v := by
  induction plain with
  | null => exact isRead_null
  | bool b => exact isRead_bool b
  | number low high => exact fun s stack awaits _ => leads_number awaits low high
  | string text => exact isRead_string text
  | array each ih => exact isRead_array ih
  | object names each ih => exact isRead_object names ih

end Values

/-- The parser reads back what the printer writes. -/
theorem parseChars_chars {v : Json} (plain : Plain maxDepth v) : parseChars v.chars = .ok v := by
  obtain ⟨t, read, ends⟩ := plain.isRead (.value []) [] (awaits_value []) (by simp)
  unfold Leads at read
  rw [parseChars, read]
  exact ends.finish_eq

end StartSignal.Json
