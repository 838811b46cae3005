/-
# StartSignal.Text.Numeral -- decimal numerals

`decimal` writes a natural number without leading zeros.  Reading is more
generous: any non-empty run of the ASCII digits is a numeral, whatever its length
and however many zeros lead it, and a sign may stand in front of it where the
type has one.  No other character is allowed, blanks included.
-/

namespace StartSignal.Text

/-- The ASCII digit of a number below ten. -/
def digitChar (d : Nat) : Char := Char.ofNat ('0'.toNat + d)

def digitValue? (c : Char) : Option Nat :=
  if '0'.toNat ≤ c.toNat ∧ c.toNat ≤ '9'.toNat then some (c.toNat - '0'.toNat) else none

/-- The decimal numeral of `n`: no leading zero, except for zero itself. -/
def decimal (n : Nat) : List Char :=
  if n < 10 then [digitChar n] else decimal (n / 10) ++ [digitChar (n % 10)]
termination_by n
decreasing_by omega

def natText (n : Nat) : String := String.ofList (decimal n)

/-- The numeral of `i` as text, with a leading minus below zero. -/
def intText (i : Int) : String :=
  if i < 0 then String.ofList ('-' :: decimal i.natAbs) else natText i.natAbs

/-- The values of a run of digits; `none` when another character stands in it. -/
def digitValues? (cs : List Char) : Option (List Nat) := cs.mapM digitValue?

/-- The number with the given decimal digits, most significant first. -/
def ofDigits (ds : List Nat) : Nat := ds.foldl (fun n d => 10 * n + d) 0

/-- The number a non-empty run of digits stands for. -/
def digits? : List Char → Option Nat
  | [] => none
  | cs => (digitValues? cs).map ofDigits

/-- An unsigned numeral: digits after at most one plus sign. -/
def unsigned? : List Char → Option Nat
  | '+' :: cs => digits? cs
  | cs => digits? cs

/-- A signed numeral: digits after at most one sign. -/
def signed? : List Char → Option Int
  | '-' :: cs => (digits? cs).map fun n => -(n : Int)
  | cs => (unsigned? cs).map Int.ofNat

end StartSignal.Text
