/-
# StartSignal.Json.Parser -- text as values

The parser reads the text once, character by character, as a machine with a stack
of the containers that are open (`Frame`).  `step` says what each character does in
each state, so the error reported is that of the first character that cannot stand
where it does; `finish` says what the end of the text means.  The parser is a fold
of `step`, hence total without any measure.

A number has no closing character: the first character that cannot belong to it
ends it and is then read again in the state after it.

White space between tokens is space, tab, line feed and carriage return only.
Containers nest to a depth of 127.  Of several members with one name the last
counts.  A whole number that fits in 64 bits, or down to -2^63 with a minus, stays
exact; `-0` and every other number is a double.
-/
import StartSignal.Decimal.Reading
import StartSignal.Json.Error
import StartSignal.Json.Value
import StartSignal.Text.Quoted

namespace StartSignal.Json

/-- The greatest number of containers inside each other. -/
def maxDepth : Nat := 127

/-- A container that is open: its items so far, latest first, or its members so far and
the name whose value is due. -/
inductive Frame where
  | array (items : List Json)
  | object (members : Members Json) (key : String)

inductive NumberPlace where
  | sign
  | zero
  | whole
  | point
  | fraction
  | mark
  | markSign
  | exponent
deriving DecidableEq, Repr

/-- A number being read; its digits are kept latest first. -/
structure NumberDraft where
  place : NumberPlace
  negative : Bool
  whole : List Nat
  fraction : List Nat
  down : Bool
  exponent : List Nat
deriving DecidableEq, Repr

/-- How the next character of a string is to be read. -/
inductive StringMode where
  /-- As it stands. -/
  | plain
  /-- As the letter of an escape. -/
  | escape
  /-- As part of a four-digit escape, after the characters `seen` (latest first) and
  maybe after the first half of a surrogate pair. -/
  | hex (high : Option Nat) (seen : List Char)
  /-- As the backslash of the second half of a pair. -/
  | pairBackslash (high : Nat)
  /-- As the letter of the second half of a pair. -/
  | pairLetter (high : Nat)
deriving DecidableEq, Repr

inductive StringRole where
  | value
  | key (members : Members Json)

/-- The state of the parser: what may come next, and the open containers around it. -/
inductive State where
  /-- A value. -/
  | value (stack : List Frame)
  /-- The first item of an array, or its end. -/
  | firstItem (stack : List Frame)
  /-- An item after a comma. -/
  | nextItem (items : List Json) (stack : List Frame)
  /-- A comma or the end of an array. -/
  | afterItem (items : List Json) (stack : List Frame)
  /-- The first name of an object, or its end. -/
  | firstKey (stack : List Frame)
  /-- A name after a comma. -/
  | nextKey (members : Members Json) (stack : List Frame)
  /-- The colon after a name. -/
  | colon (members : Members Json) (key : String) (stack : List Frame)
  /-- A comma or the end of an object. -/
  | afterMember (members : Members Json) (stack : List Frame)
  /-- The rest of a string; its text is kept latest first. -/
  | string (role : StringRole) (text : List Char) (mode : StringMode) (stack : List Frame)
  /-- The rest of a number. -/
  | number (draft : NumberDraft) (stack : List Frame)
  /-- The rest of one of the three words. -/
  | word (left : List Char) (v : Json) (stack : List Frame)
  /-- Nothing but white space. -/
  | done (v : Json)

/-- Whether `c` may stand between tokens. -/
def isSpace (c : Char) : Bool := c = ' ' || c = '\t' || c = '\n' || c = '\r'

def give (v : Json) : List Frame → State
  | [] => .done v
  | .array items :: stack => .afterItem (v :: items) stack
  | .object members key :: stack => .afterMember (members.insert key v) stack

def giveString (text : List Char) (role : StringRole) (stack : List Frame) : State :=
  let s := String.ofList text.reverse
  match role with
  | .value => give (.string s) stack
  | .key members => .colon members s stack

/-! ## Numbers -/

/-- A number whose first character is a minus. -/
def NumberDraft.minus : NumberDraft := ⟨.sign, true, [], [], false, []⟩

def NumberDraft.ofDigit (negative : Bool) (d : Nat) : NumberDraft :=
  ⟨if d = 0 then .zero else .whole, negative, [d], [], false, []⟩

/-- Whether the number may end here. -/
def NumberDraft.complete (n : NumberDraft) : Bool :=
  match n.place with
  | .zero | .whole | .fraction | .exponent => true
  | .sign | .point | .mark | .markSign => false

/-- Read `c` as part of the number: the longer number, `none` when the number ends
before `c`, or an error. -/
def NumberDraft.extend (n : NumberDraft) (c : Char) : Except SyntaxError (Option NumberDraft) :=
  match n.place, Text.digitValue? c with
  | .sign, some d => .ok (some (.ofDigit n.negative d))
  | .zero, some _ => .error .invalidNumber
  | .whole, some d => .ok (some { n with whole := d :: n.whole })
  | .point, some d | .fraction, some d =>
    .ok (some { n with place := .fraction, fraction := d :: n.fraction })
  | .mark, some d | .markSign, some d | .exponent, some d =>
    .ok (some { n with place := .exponent, exponent := d :: n.exponent })
  | .mark, none =>
    if c = '+' then .ok (some { n with place := .markSign })
    else if c = '-' then .ok (some { n with place := .markSign, down := true })
    else .error .invalidNumber
  | .sign, none | .point, none | .markSign, none => .error .invalidNumber
  | .zero, none | .whole, none =>
    if c = '.' then .ok (some { n with place := .point })
    else if c = 'e' ∨ c = 'E' then .ok (some { n with place := .mark })
    else .ok none
  | .fraction, none =>
    if c = 'e' ∨ c = 'E' then .ok (some { n with place := .mark }) else .ok none
  | .exponent, none => .ok none

def NumberDraft.literal (n : NumberDraft) : Decimal.Literal where
  negative := n.negative
  whole := n.whole.reverse
  fraction := if n.fraction.isEmpty then none else some n.fraction.reverse
  exponent := if n.exponent.isEmpty then none else some (n.down, n.exponent.reverse)

/-- The number that was read; `none` when it is past the greatest double. -/
def NumberDraft.number? (n : NumberDraft) : Option Number :=
  let l := n.literal
  let i := Text.ofDigits l.whole
  if l.fraction.isNone ∧ l.exponent.isNone ∧ ¬ n.negative ∧ i < UInt64.size then some (.whole i)
  else if l.fraction.isNone ∧ l.exponent.isNone ∧ n.negative ∧ 0 < i ∧ 2 * i ≤ UInt64.size then
    some (.whole (-i))
  else l.double?.map .double

def NumberDraft.give (n : NumberDraft) (stack : List Frame) : Except ParseError State :=
  match n.number? with
  | some x => .ok (Json.give (.number x) stack)
  | none => .error (.syntaxError .numberOutOfRange)

/-! ## Strings -/

/-- The character a one-letter escape stands for. -/
def escapeLetter? (c : Char) : Option Char :=
  if c = '"' ∨ c = '\\' ∨ c = '/' then some c
  else if c = 'b' then some '\x08'
  else if c = 'f' then some '\x0c'
  else if c = 'n' then some '\n'
  else if c = 'r' then some '\r'
  else if c = 't' then some '\t'
  else none

/-- The number four hexadecimal digits (latest first) stand for. -/
def fourHex? : List Char → Option Nat
  | [d, c, b, a] => do
    let a ← Text.hexValue? a
    let b ← Text.hexValue? b
    let c ← Text.hexValue? c
    let d ← Text.hexValue? d
    return ((a * 16 + b) * 16 + c) * 16 + d
  | _ => none

def pairChar (high low : Nat) : Char :=
  Char.ofNat (0x10000 + (high - 0xd800) * 0x400 + (low - 0xdc00))

/-- What a complete four-digit escape adds to the text, and how the string goes on. -/
def closeEscape (high : Option Nat) (n : Nat) (text : List Char) :
    Except SyntaxError (List Char × StringMode) :=
  match high with
  | some h =>
    if 0xdc00 ≤ n ∧ n ≤ 0xdfff then .ok (pairChar h n :: text, .plain) else .error .loneSurrogate
  | none =>
    if 0xdc00 ≤ n ∧ n ≤ 0xdfff then .error .loneSurrogate
    else if 0xd800 ≤ n ∧ n ≤ 0xdbff then .ok (text, .pairBackslash n)
    else .ok (Char.ofNat n :: text, .plain)

/-- Read one character of a string that does not end it.  A four-digit escape takes four
bytes before it is looked at. -/
def stringStep (text : List Char) (mode : StringMode) (c : Char) :
    Except SyntaxError (List Char × StringMode) :=
  match mode with
  | .plain =>
    if c = '\\' then .ok (text, .escape)
    else if c.toNat < 0x20 then .error .controlCharacter
    else .ok (c :: text, .plain)
  | .escape =>
    if c = 'u' then .ok (text, .hex none [])
    else match escapeLetter? c with
      | some e => .ok (e :: text, .plain)
      | none => .error .invalidEscape
  | .hex high seen =>
    let seen := c :: seen
    if seen.foldl (fun n c => n + c.utf8Size) 0 < 4 then .ok (text, .hex high seen)
    else match fourHex? seen with
      | some n => closeEscape high n text
      | none => .error .invalidEscape
  | .pairBackslash high =>
    if c = '\\' then .ok (text, .pairLetter high) else .error .unfinishedPair
  | .pairLetter high =>
    if c = 'u' then .ok (text, .hex (some high) []) else .error .unfinishedPair

/-! ## The machine -/

def startValue (c : Char) (stack : List Frame) : Except ParseError State :=
  if c = 'n' then .ok (.word ['u', 'l', 'l'] .null stack)
  else if c = 't' then .ok (.word ['r', 'u', 'e'] (.bool true) stack)
  else if c = 'f' then .ok (.word ['a', 'l', 's', 'e'] (.bool false) stack)
  else if c = '"' then .ok (.string .value [] .plain stack)
  else if c = '-' then .ok (.number .minus stack)
  else if c = '[' then
    if stack.length < maxDepth then .ok (.firstItem stack) else .error (.syntaxError .tooDeep)
  else if c = '\x7b' then
    if stack.length < maxDepth then .ok (.firstKey stack) else .error (.syntaxError .tooDeep)
  else match Text.digitValue? c with
    | some d => .ok (.number (.ofDigit false d) stack)
    | none => .error (.syntaxError .expectedValue)

/-- A character where a value has just ended. -/
def afterValue (s : State) (c : Char) : Except ParseError State :=
  if isSpace c then .ok s
  else match s with
    | .afterItem items stack =>
      if c = ',' then .ok (.nextItem items stack)
      else if c = ']' then .ok (give (.array items.reverse) stack)
      else .error (.syntaxError .expectedCommaOrBracket)
    | .afterMember members stack =>
      if c = ',' then .ok (.nextKey members stack)
      else if c = '\x7d' then .ok (give (.object members) stack)
      else .error (.syntaxError .expectedCommaOrBrace)
    | _ => .error (.syntaxError .trailingCharacters)

def step (s : State) (c : Char) : Except ParseError State :=
  match s with
  | .value stack => if isSpace c then .ok s else startValue c stack
  | .firstItem stack =>
    if isSpace c then .ok s
    else if c = ']' then .ok (give (.array []) stack)
    else startValue c (.array [] :: stack)
  | .nextItem items stack =>
    if isSpace c then .ok s
    else if c = ']' then .error (.syntaxError .trailingComma)
    else startValue c (.array items :: stack)
  | .firstKey stack =>
    if isSpace c then .ok s
    else if c = '\x7d' then .ok (give (.object []) stack)
    else if c = '"' then .ok (.string (.key []) [] .plain stack)
    else .error (.syntaxError .keyMustBeString)
  | .nextKey members stack =>
    if isSpace c then .ok s
    else if c = '"' then .ok (.string (.key members) [] .plain stack)
    else if c = '\x7d' then .error (.syntaxError .trailingComma)
    else .error (.syntaxError .keyMustBeString)
  | .colon members key stack =>
    if isSpace c then .ok s
    else if c = ':' then .ok (.value (.object members key :: stack))
    else .error (.syntaxError .expectedColon)
  | .string role text mode stack =>
    if c = '"' ∧ mode = .plain then .ok (giveString text role stack)
    else match stringStep text mode c with
      | .ok (text, mode) => .ok (.string role text mode stack)
      | .error e => .error (.syntaxError e)
  | .number draft stack =>
    match draft.extend c with
    | .ok (some draft) => .ok (.number draft stack)
    | .ok none => (draft.give stack).bind fun s => afterValue s c
    | .error e => .error (.syntaxError e)
  | .word [] v stack => afterValue (give v stack) c
  | .word [l] v stack => if c = l then .ok (give v stack) else .error (.syntaxError .expectedWord)
  | .word (l :: left) v stack =>
    if c = l then .ok (.word left v stack) else .error (.syntaxError .expectedWord)
  | .afterItem .. | .afterMember .. | .done _ => afterValue s c

def State.unfinished : State → Unfinished
  | .firstItem _ | .afterItem .. => .list
  | .firstKey _ | .colon .. | .afterMember .. => .object
  | .string .. => .string
  | .value _ | .nextItem .. | .nextKey .. | .number .. | .word .. | .done _ => .value

def State.value? : State → Except ParseError Json
  | .done v => .ok v
  | s => .error (.unfinished s.unfinished)

def finish (s : State) : Except ParseError Json :=
  match s with
  | .number draft stack =>
    if draft.complete then (draft.give stack).bind State.value?
    else .error (.unfinished .value)
  | s => s.value?

def parseChars (cs : List Char) : Except ParseError Json :=
  (cs.foldlM step (.value [])).bind finish

def parse (s : String) : Except ParseError Json := parseChars s.toList

end StartSignal.Json
