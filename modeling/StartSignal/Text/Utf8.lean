/-
# StartSignal.Text.Utf8 -- bytes as text, with ill-formed bytes replaced

Decoding never fails.  It walks the bytes once, keeping the sequence it is in the
middle of, if any (`Partial`).  A byte that the sequence allows extends it; when
the sequence cannot go on, what was read of it becomes one replacement character
and the byte is looked at afresh.  So each maximal ill-formed subpart turns into
exactly one replacement character, and a byte that can never start a sequence is
a subpart of its own.

The bounds in `Partial` are those of the Unicode table of well-formed sequences:
the first continuation byte is narrower after E0, ED, F0 and F4, which rules out
overlong forms, surrogates and everything above U+10FFFF.

`encode` is the inverse on well-formed bytes, and `decode?` accepts exactly the
bytes that `encode` produces.
-/

namespace StartSignal.Text.Utf8

/-- The character that stands for ill-formed bytes. -/
def replacement : Char := '\uFFFD'

/-- A multi-byte sequence under way. -/
structure Partial where
  /-- The bits collected so far. -/
  bits : Nat
  /-- How many bytes are still to come. -/
  missing : Nat
  /-- The least value of the next byte. -/
  low : UInt8
  /-- The greatest value of the next byte. -/
  high : UInt8
deriving DecidableEq, Repr

/-- A sequence that any continuation byte continues. -/
def Partial.plain (bits : Nat) (missing : Nat) : Partial := ⟨bits, missing, 0x80, 0xbf⟩

/-- What a byte means at the start of a character. -/
inductive Lead where
  /-- A character of one byte. -/
  | single (c : Char)
  /-- The first byte of a longer sequence. -/
  | opens (p : Partial)
  /-- A byte no sequence starts with. -/
  | never
deriving Repr

/-- Classify the first byte of a character. -/
def Lead.ofByte (b : UInt8) : Lead :=
  if b < 0x80 then .single (Char.ofNat b.toNat)
  else if b < 0xc2 then .never
  else if b < 0xe0 then .opens (.plain (b &&& 0x1f).toNat 1)
  else if b = 0xe0 then .opens ⟨0, 2, 0xa0, 0xbf⟩
  else if b = 0xed then .opens ⟨0xd, 2, 0x80, 0x9f⟩
  else if b < 0xf0 then .opens (.plain (b &&& 0xf).toNat 2)
  else if b = 0xf0 then .opens ⟨0, 3, 0x90, 0xbf⟩
  else if b < 0xf4 then .opens (.plain (b &&& 0x7).toNat 3)
  else if b = 0xf4 then .opens ⟨4, 3, 0x80, 0x8f⟩
  else .never

def Partial.allows (p : Partial) (b : UInt8) : Bool := p.low ≤ b && b ≤ p.high

/-- The bits of the sequence with those of its continuation byte `b` appended. -/
def Partial.append (p : Partial) (b : UInt8) : Nat := p.bits * 64 + (b &&& 0x3f).toNat

/-- A byte at the start of a character: the text it yields and the sequence it opens. -/
def start (b : UInt8) : List Char × Option Partial :=
  match Lead.ofByte b with
  | .single c => ([c], none)
  | .opens p => ([], some p)
  | .never => ([replacement], none)

/-- One byte: the text it yields and the sequence under way after it. -/
def step (under : Option Partial) (b : UInt8) : List Char × Option Partial :=
  match under with
  | none => start b
  | some p =>
    if p.allows b then
      if p.missing ≤ 1 then ([Char.ofNat (p.append b)], none)
      else ([], some (.plain (p.append b) (p.missing - 1)))
    else
      let (text, next) := start b
      (replacement :: text, next)

/-- The text of `bytes` when the sequence `under` is under way. -/
def decodeFrom : Option Partial → List UInt8 → List Char
  | none, [] => []
  | some _, [] => [replacement]
  | under, b :: bytes =>
    let (text, next) := step under b
    text ++ decodeFrom next bytes

/-- The text of `bytes`, one replacement character for each maximal ill-formed subpart. -/
def decode (bytes : List UInt8) : List Char := decodeFrom none bytes

def encode (cs : List Char) : List UInt8 := cs.flatMap String.utf8EncodeChar

/-- The text of well-formed bytes: those that encode it. -/
def decode? (bytes : List UInt8) : Option (List Char) :=
  if encode (decode bytes) = bytes then some (decode bytes) else none

def text (bytes : List UInt8) : String := String.ofList (decode bytes)

def bytes (s : String) : List UInt8 := encode s.toList

@[simp] theorem encode_nil : encode [] = [] := rfl

@[simp] theorem encode_append (a b : List Char) : encode (a ++ b) = encode a ++ encode b := by
  simp [encode]

end StartSignal.Text.Utf8
