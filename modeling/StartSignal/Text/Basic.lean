/-
# StartSignal.Text.Basic -- what the readers and writers of text share

A property of characters is a list of ranges of code points (`inRanges`).  A character is
*blank* when it has the Unicode property White_Space: the six ASCII blanks, next line, the
no-break space, the typographic spaces and the line and paragraph separators; zero-width
spaces and the byte order mark are not.  `trim` drops the longest blank run at either end and
nothing in between.

Names of levels and formats are read in any mix of ASCII cases (`lower`).  Lists of names
and of conditions are cut at their separators (`splitOn`).  A place in a text may also be given by
the number of UTF-8 bytes before it (`cut?`); such a place can fall inside a character, or past
the end, and the text cannot be cut there.
-/

namespace StartSignal.Text

/-! ## Characters -/

/-- Whether a code point lies in one of the ranges, which are in increasing order. -/
def inRanges : List (Nat × Nat) → Nat → Bool
  | [], _ => false
  | (low, high) :: ranges, n => low ≤ n && (n ≤ high || inRanges ranges n)

/-- The code points of White_Space, as inclusive ranges in increasing order. -/
def blankRanges : List (Nat × Nat) :=
  [(0x09, 0x0d), (0x20, 0x20), (0x85, 0x85), (0xa0, 0xa0), (0x1680, 0x1680),
   (0x2000, 0x200a), (0x2028, 0x2029), (0x202f, 0x202f), (0x205f, 0x205f), (0x3000, 0x3000)]

def isBlank (c : Char) : Bool := inRanges blankRanges c.toNat

def trimStart (cs : List Char) : List Char := cs.dropWhile isBlank

def trimEnd (cs : List Char) : List Char := (cs.reverse.dropWhile isBlank).reverse

def trim (cs : List Char) : List Char := trimEnd (trimStart cs)

/-- The character in lower case, if it is an ASCII letter. -/
def lowerChar (c : Char) : Char := c.toLower

/-- The text with its ASCII letters in lower case. -/
def lower (s : String) : String := String.ofList (s.toList.map lowerChar)

/-! ## Separators -/

/-- The segments of a list between the occurrences of `sep`. -/
def splitOn {α : Type} [DecidableEq α] (sep : α) : List α → List (List α)
  | [] => [[]]
  | c :: cs =>
    if c = sep then [] :: splitOn sep cs
    else match splitOn sep cs with
      | [] => [[c]]
      | s :: ss => (c :: s) :: ss

/-- The segments with `sep` between them. -/
def joinWith (sep : Char) (segments : List (List Char)) : List Char :=
  [sep].intercalate segments

theorem splitOn_ne_nil {α : Type} [DecidableEq α] (sep : α) (cs : List α) :
    splitOn sep cs ≠ [] := by
  cases cs with
  | nil => simp [splitOn]
  | cons c cs =>
    simp only [splitOn]
    split
    · simp
    · split <;> simp

/-! ## Places counted in bytes -/

/-- The text before and after its first `n` bytes, if it can be cut there. -/
def splitAtByte? : Nat → List Char → Option (List Char × List Char)
  | 0, cs => some ([], cs)
  | _ + 1, [] => none
  | n + 1, c :: cs =>
    if c.utf8Size ≤ n + 1 then
      (splitAtByte? (n + 1 - c.utf8Size) cs).map fun (before, after) => (c :: before, after)
    else none

/-- The text from its byte `first` to before its byte `last`, if it can be cut at both. -/
def cut? (cs : List Char) (first last : Nat) : Option (List Char) := do
  let (front, _) ← splitAtByte? last cs
  let (_, part) ← splitAtByte? first front
  return part

/-- The text from its byte `first` on, if it can be cut there. -/
def cutFrom? (cs : List Char) (first : Nat) : Option (List Char) :=
  (splitAtByte? first cs).map (·.2)

end StartSignal.Text
