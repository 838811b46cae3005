/-
# StartSignal.Log.Condition -- what a directive asks of a field

A condition names a field, and may give a value after an equals sign: a number or a
pattern.  What follows another equals sign is ignored.

The number is an infinity, a word for what is no number, or digits with at most one point among
or around them and perhaps an exponent; any of them may follow one sign.  The words are read in
any mix of ASCII cases.
-/
import StartSignal.Log.Pattern.Validity
import StartSignal.Text.Numeral

namespace StartSignal.Text

/-- The text without one sign at its start. -/
def unsignedPart : List Char → List Char
  | '+' :: cs | '-' :: cs => cs
  | cs => cs

/-- Whether a text is digits after at most one sign. -/
def isInteger (cs : List Char) : Bool := (digits? (unsignedPart cs)).isSome

/-- Whether a text is nothing, or an exponent. -/
def isExponentOrEmpty : List Char → Bool
  | [] => true
  | c :: cs => (c = 'e' || c = 'E') && isInteger cs

/-- Whether a text is a fraction after some digits, and perhaps an exponent. -/
def isFraction (whole cs : List Char) : Bool :=
  match cs with
  | '.' :: cs =>
    !(whole ++ cs.takeWhile Char.isDigit).isEmpty && isExponentOrEmpty (cs.dropWhile Char.isDigit)
  | cs => !whole.isEmpty && isExponentOrEmpty cs

/-- Whether a text is a numeral that may have a fraction and an exponent. -/
def isNumeral (cs : List Char) : Bool :=
  let cs := unsignedPart cs
  ["inf", "infinity", "nan"].contains (lower (String.ofList cs)) ||
    isFraction (cs.takeWhile Char.isDigit) (cs.dropWhile Char.isDigit)

end StartSignal.Text

namespace StartSignal.Log

structure Condition where
  /-- The name of the field. -/
  field : String
  /-- Whether a value is asked for. -/
  valued : Bool
deriving DecidableEq, Repr

namespace Condition

/-- What is wrong with a value, if anything is. -/
def valueFault? (value : List Char) : Option PatternError :=
  if Text.isNumeral value then none else Pattern.fault? value

def parse (cs : List Char) : Except PatternError Condition :=
  match Text.splitOn '=' cs with
  | field :: value :: _ =>
    match valueFault? value with
    | some e => .error e
    | none => .ok ⟨String.ofList field, true⟩
  | _ => .ok ⟨String.ofList cs, false⟩

end Condition

end StartSignal.Log
