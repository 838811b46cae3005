/-
# StartSignal.Decimal.Binary64 -- finite binary floating point, in exact arithmetic

A finite double is a sign and a magnitude `significand * 2 ^ exponent` in its
unique normal form: the significand has exactly 53 bits, or the exponent is the
least one.  `Magnitude.ofRatio?` rounds a quotient of natural numbers to the
nearest magnitude, a tie going to the even significand, and is `none` where the
rounded value is past the greatest finite one.

Products and quotients of magnitudes are rounded once from their exact value, so
every operation here is a composition of exact arithmetic and `ofRatio?`.
-/

namespace StartSignal.Decimal

/-- The number of bits of a full significand. -/
def precision : Nat := 53

/-- The least exponent: that of the subnormal values. -/
def minExponent : Int := -1074

def maxExponent : Int := 971

/-- A finite magnitude, `significand * 2 ^ exponent`. -/
structure Magnitude where
  /-- The integral significand, below `2 ^ 53`. -/
  significand : Nat
  /-- The power of two it is scaled by. -/
  exponent : Int
deriving DecidableEq, Repr

namespace Magnitude

def zero : Magnitude := ⟨0, minExponent⟩

/-- Numerator of the exact value as a quotient of natural numbers. -/
def num (x : Magnitude) : Nat := x.significand * Nat.pow 2 x.exponent.toNat

def den (x : Magnitude) : Nat := Nat.pow 2 (-x.exponent).toNat

/-- The quotient rounded to the nearest natural number, a tie to the even one. -/
def roundHalfEven (num den : Nat) : Nat :=
  let q := num / den
  let r := num % den
  if 2 * r < den then q
  else if den < 2 * r then q + 1
  else q + q % 2

/-- The quotient divided by `2 ^ e` and rounded. -/
def scaled (num den : Nat) (e : Int) : Nat :=
  roundHalfEven (num * Nat.pow 2 (-e).toNat) (den * Nat.pow 2 e.toNat)

/-- The exponent at which the quotient has a significand of at most 53 bits, and of
exactly 53 unless it is subnormal. -/
def fittingExponent (num den : Nat) : Int :=
  let guess := (num.log2 : Int) - den.log2 - precision
  let whole := num * Nat.pow 2 (-guess).toNat / (den * Nat.pow 2 guess.toNat)
  max minExponent (if whole < Nat.pow 2 precision then guess else guess + 1)

/-- The magnitude nearest to `num / den`; `none` when that is past the finite ones. -/
def ofRatio? (num den : Nat) : Option Magnitude :=
  if num = 0 then some zero
  else
    let e := fittingExponent num den
    let s := scaled num den e
    let x : Magnitude := if s = Nat.pow 2 precision then ⟨Nat.pow 2 (precision - 1), e + 1⟩ else ⟨s, e⟩
    if x.exponent ≤ maxExponent then some x else none

def mul? (x y : Magnitude) : Option Magnitude := ofRatio? (x.num * y.num) (x.den * y.den)

/-- The rounded quotient by a nonzero magnitude. -/
def div? (x y : Magnitude) : Option Magnitude := ofRatio? (x.num * y.den) (x.den * y.num)

end Magnitude

structure Binary64 where
  /-- Whether the sign is negative; zero has a sign too. -/
  negative : Bool
  /-- The absolute value. -/
  magnitude : Magnitude
deriving DecidableEq, Repr

end StartSignal.Decimal
