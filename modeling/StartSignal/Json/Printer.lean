/-
# StartSignal.Json.Printer -- values as text

The text has no white space.  Inside a string the quote, the backslash and the
control characters are escaped, the last by a letter where JSON has one and by four
hexadecimal digits otherwise; every other character stands for itself.
-/
import StartSignal.Decimal.Shortest
import StartSignal.Json.Value
import StartSignal.Text.Quoted

namespace StartSignal.Json

/-- The four hexadecimal digits of a number below `2 ^ 16`. -/
def fourHex (n : Nat) : List Char :=
  [Text.hexDigitChar (n / 4096 % 16), Text.hexDigitChar (n / 256 % 16),
   Text.hexDigitChar (n / 16 % 16), Text.hexDigitChar (n % 16)]

def escapeChar (c : Char) : List Char :=
  if c = '"' then ['\\', '"']
  else if c = '\\' then ['\\', '\\']
  else if c = '\x08' then ['\\', 'b']
  else if c = '\x0c' then ['\\', 'f']
  else if c = '\n' then ['\\', 'n']
  else if c = '\r' then ['\\', 'r']
  else if c = '\t' then ['\\', 't']
  else if c.toNat < 0x20 then ['\\', 'u'] ++ fourHex c.toNat
  else [c]

def stringText (s : String) : List Char :=
  '"' :: s.toList.flatMap escapeChar ++ ['"']

def numberText : Number → List Char
  | .whole n => (Text.intText n).toList
  | .double x => x.render.toList

mutual

def chars : Json → List Char
  | .null => ['n', 'u', 'l', 'l']
  | .bool true => ['t', 'r', 'u', 'e']
  | .bool false => ['f', 'a', 'l', 's', 'e']
  | .number n => numberText n
  | .string s => stringText s
  | .array [] => ['[', ']']
  | .array (v :: vs) => '[' :: chars v ++ itemChars vs
  | .object [] => ['\x7b', '\x7d']
  | .object ((k, v) :: ms) => '\x7b' :: stringText k ++ ':' :: chars v ++ memberChars ms

/-- The items after the first, and the end of the array. -/
def itemChars : List Json → List Char
  | [] => [']']
  | v :: vs => ',' :: chars v ++ itemChars vs

/-- The members after the first, and the end of the object. -/
def memberChars : List (String × Json) → List Char
  | [] => ['\x7d']
  | (k, v) :: ms => ',' :: stringText k ++ ':' :: chars v ++ memberChars ms

end

def render (v : Json) : String := String.ofList v.chars

end StartSignal.Json
