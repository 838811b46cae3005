/-
# StartSignal.Decimal.Reading -- decimal literals as numbers

A literal is a run of digits, an optional fraction and an optional exponent.  Its
digits are gathered into a significand of at most 64 bits: the first digit that
would not fit ends the gathering in its part of the literal.  A digit of the whole
part that is left out scales the value by ten, and one of the fraction is dropped.

The value is the significand rounded to a double, times or divided by a power of
ten rounded to a double, each step rounded once.  Powers past 10^308 are applied in
steps of that size.  The result agrees with the nearest double whenever both
factors are exact, that is for up to fifteen digits and a power up to 10^22.
-/
import StartSignal.Decimal.Binary64
import StartSignal.Text.Numeral

namespace StartSignal.Decimal

/-- The parts of a decimal literal, each part's digits in the order they are written. -/
structure Literal where
  /-- Whether a minus stands in front. -/
  negative : Bool
  /-- The digits before the point. -/
  whole : List Nat
  /-- The digits after the point; `none` without a point. -/
  fraction : Option (List Nat)
  /-- The exponent's sign and digits; `none` without an exponent. -/
  exponent : Option (Bool × List Nat)
deriving DecidableEq, Repr

/-- The greatest significand that is gathered. -/
def maxSignificand : Nat := UInt64.size - 1

/-- The greatest exponent that is told apart from a larger one. -/
def maxExponentText : Nat := 2147483647

/-- Append digits to a significand while it fits; the significand and the digits left
out. -/
def gather : Nat → List Nat → Nat × List Nat
  | s, [] => (s, [])
  | s, d :: ds => if 10 * s + d ≤ maxSignificand then gather (10 * s + d) ds else (s, d :: ds)

/-- `10 ^ n` rounded. -/
def tenPower (n : Nat) : Option Magnitude := Magnitude.ofRatio? (Nat.pow 10 n) 1

/-- The largest power of ten below the greatest double. -/
def tenPowerLimit : Nat := 308

/-- `x * 10 ^ n`, rounded at each factor; `none` when it is too large. -/
def scaleUp? (x : Magnitude) (n : Nat) : Option Magnitude :=
  if n ≤ tenPowerLimit then (tenPower n).bind x.mul?
  else if x = .zero then some x
  else none

/-- `x / 10 ^ n`, rounded at each factor. -/
def scaleDown? (x : Magnitude) (n : Nat) : Option Magnitude :=
  if n ≤ tenPowerLimit then (tenPower n).bind x.div?
  else if x = .zero then some x
  else ((tenPower tenPowerLimit).bind x.div?).bind fun y => scaleDown? y (n - tenPowerLimit)
termination_by n
decreasing_by simp only [tenPowerLimit] at *; omega

/-- `significand * 10 ^ exponent` as a double; `none` when it is too large. -/
def fromParts? (significand : Nat) (exponent : Int) : Option Magnitude :=
  (Magnitude.ofRatio? significand 1).bind fun x =>
    if 0 ≤ exponent then scaleUp? x exponent.toNat else scaleDown? x (-exponent).toNat

/-- The significand of a literal and the power of ten its digits are scaled by, before
the exponent counts. -/
def Literal.gathered (l : Literal) : Nat × Int :=
  let (s, left) := gather 0 l.whole
  match l.fraction with
  | none => (s, left.length)
  | some ds =>
    let (t, dropped) := gather s ds
    (t, (left.length : Int) - ((ds.length : Int) - dropped.length))

/-- The magnitude of a literal as a double; `none` when it is too large. -/
def Literal.magnitude? (l : Literal) : Option Magnitude :=
  let (s, scale) := l.gathered
  match l.exponent with
  | none => fromParts? s scale
  | some (down, ds) =>
    let n := Text.ofDigits ds
    if maxExponentText < n then
      if s ≠ 0 ∧ ¬ down then none else some .zero
    else fromParts? s (if down then scale - n else scale + n)

/-- A literal as a double; `none` when it is too large. -/
def Literal.double? (l : Literal) : Option Binary64 :=
  l.magnitude?.map fun m => ⟨l.negative, m⟩

end StartSignal.Decimal
