/-
# StartSignal.Log.Pattern.Escape -- what follows a backslash

A backslash before an ASCII character that is neither a letter nor a digit makes it
stand for itself, but for the angle brackets, which mark where a word begins and ends.
Before a letter it has a meaning of its own, or none; before a digit it has none.

In a verbose pattern blanks may stand between its parts, and comments, which go from a
number sign to the end of the line.
-/
import StartSignal.Log.Pattern.Basic
import StartSignal.Text.Basic
import StartSignal.Text.Quoted

namespace StartSignal.Log

namespace Pattern

/-- The text without the blanks and comments at its start; it may start inside one. -/
def dropComments : Bool → List Char → List Char
  | _, [] => []
  | true, c :: cs => dropComments (c ≠ '\n') cs
  | false, c :: cs =>
    if Text.isBlank c then dropComments false cs
    else if c = '#' then dropComments true cs
    else c :: cs

/-- The text without what does not count at its start. -/
def skip (verbose : Bool) (cs : List Char) : List Char :=
  if verbose then dropComments false cs else cs

/-- Read `n` more hexadecimal digits of a number that begins with `value`. -/
def hexDigits? (verbose : Bool) : Nat → Nat → List Char → Option (Nat × List Char)
  | 0, value, cs => some (value, cs)
  | n + 1, value, cs =>
    match skip verbose cs with
    | [] => none
    | c :: cs => (Text.hexValue? c).bind fun d => hexDigits? verbose n (16 * value + d) cs

/-- Read a character given by `n` hexadecimal digits. -/
def codePoint? (verbose : Bool) (n : Nat) (cs : List Char) : Option (Pattern × List Char) := do
  let (value, cs) ← hexDigits? verbose n 0 cs
  if value.isValidChar then return (.literal ⟨Char.ofNat value, n = 2⟩, cs) else none

/-- The control character that a letter stands for. -/
def control? : Char → Option Char
  | 'a' => some '\x07'
  | 'f' => some '\x0c'
  | 't' => some '\t'
  | 'n' => some '\n'
  | 'r' => some '\r'
  | 'v' => some '\x0b'
  | _ => none

/-- What a letter or angle bracket after a backslash means. -/
def escaped? (c : Char) : Option Pattern :=
  if c ∈ ['d', 's', 'w'] then some (.shorthand false)
  else if c ∈ ['D', 'S', 'W'] then some (.shorthand true)
  else if c ∈ ['A', 'z'] then some .anchor
  else if c ∈ ['b', 'B', '<', '>'] then some .boundary
  else if c.isAlphanum ∨ 0x80 ≤ c.toNat then (control? c).map fun x => .literal ⟨x, false⟩
  else some (.literal ⟨c, false⟩)

/-- Read what follows a backslash. -/
def escape? (verbose : Bool) : List Char → Option (Pattern × List Char)
  | [] => none
  | 'x' :: cs => codePoint? verbose 2 cs
  | 'u' :: cs => codePoint? verbose 4 cs
  | 'U' :: cs => codePoint? verbose 8 cs
  | c :: cs => (escaped? c).map fun p => (p, cs)

end Pattern

end StartSignal.Log
