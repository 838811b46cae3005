/-
# StartSignal.Decimal.Shortest -- the fewest digits that read back

The reals that round to a magnitude form an interval: half a unit of the last
place to either side, a quarter below where the unit shrinks, with the ends
included iff the significand is even.  For one digit, two digits, and so on up to
seventeen, the two neighbours of the magnitude on that decimal grid are tested
against the interval; the first grid with a hit wins, of two hits the nearer, and
of two equally near the one that ends in an even digit.

`Notation` says how the digits are written out, and `Notation.render` writes them.
-/
import StartSignal.Decimal.Binary64
import StartSignal.Text.Numeral

namespace StartSignal.Decimal

/-- The value `digits * 10 ^ exponent`. -/
structure Scientific where
  /-- The significant digits as a number. -/
  digits : Nat
  /-- The power of ten they are scaled by. -/
  exponent : Int
deriving DecidableEq, Repr

namespace Scientific

def num (d : Scientific) : Nat := d.digits * Nat.pow 10 d.exponent.toNat

def den (d : Scientific) : Nat := Nat.pow 10 (-d.exponent).toNat

/-- The same value without trailing zero digits; at most `fuel` are dropped. -/
def trimmed (d : Scientific) : Nat → Scientific
  | 0 => d
  | fuel + 1 =>
    if d.digits ≠ 0 ∧ d.digits % 10 = 0 then trimmed ⟨d.digits / 10, d.exponent + 1⟩ fuel else d

end Scientific

namespace Magnitude

/-- The significand and exponent on a grid four times as fine, where both ends of
the rounding interval lie. -/
def quarters (x : Magnitude) : Nat × Int := (4 * x.significand, x.exponent - 2)

/-- Whether the unit below `x` is half the unit above it. -/
def atShrink (x : Magnitude) : Bool :=
  x.significand = Nat.pow 2 (precision - 1) && minExponent < x.exponent

/-- Whether the exact value of `d` rounds to `x`. -/
def readsBack (x : Magnitude) (d : Scientific) : Bool :=
  let (s, e) := x.quarters
  let low := s - (if x.atShrink then 1 else 2)
  let high := s + 2
  let position := d.num * Nat.pow 2 (-e).toNat
  let unit := d.den * Nat.pow 2 e.toNat
  if x.significand % 2 = 0 then low * unit ≤ position && position ≤ high * unit
  else low * unit < position && position < high * unit

/-- The count of decimal places before the point: `10 ^ (places - 1) ≤ x < 10 ^ places`
for a nonzero `x`. -/
def places (x : Magnitude) : Int :=
  if x.den ≤ x.num then (Text.decimal (x.num / x.den)).length
  else 1 - (Text.decimal ((x.den + x.num - 1) / x.num - 1)).length

/-- Twice the distance from `d` to `x`, in units of `1 / (x.den * d.den)`. -/
def distance (x : Magnitude) (d : Scientific) : Nat :=
  (d.num * x.den - x.num * d.den) + (x.num * d.den - d.num * x.den)

/-- The better of the two neighbours of `x` on the grid of `count` digits, if one of
them reads back. -/
def onGrid? (x : Magnitude) (count : Nat) : Option Scientific :=
  let e := x.places - count
  let below : Scientific := ⟨x.num * Nat.pow 10 (-e).toNat / (x.den * Nat.pow 10 e.toNat), e⟩
  let above : Scientific := ⟨below.digits + 1, e⟩
  match x.readsBack below, x.readsBack above with
  | false, false => none
  | true, false => some below
  | false, true => some above
  | true, true =>
    if x.distance below < x.distance above then some below
    else if x.distance above < x.distance below then some above
    else if below.digits % 2 = 0 then some below else some above

/-- The fewest digits that read back as `x`, nearest to it. -/
def shortest (x : Magnitude) : Scientific :=
  if x.significand = 0 then ⟨0, 0⟩
  else
    match (List.range 17).findSome? fun n => x.onGrid? (n + 1) with
    | some d => d.trimmed 17
    | none => ⟨x.num / x.den, 0⟩

end Magnitude

/-- How a decimal is written: positionally while the exponent of its leading digit
lies in a range, in scientific notation otherwise. -/
structure Notation where
  /-- The least exponent written positionally. -/
  minPositional : Int
  /-- The greatest exponent written positionally. -/
  maxPositional : Int
deriving DecidableEq, Repr

/-- The notation of numbers in messages: positional from 0.00001 to below 10^16, always
with a point or an exponent, and a sign on every exponent. -/
def Notation.message : Notation := ⟨-5, 15⟩

/-- Digits with a point after the first `count` of them, padded with zeros so that both
sides have a digit. -/
def pointed (digits : List Char) (count : Int) : List Char :=
  if count ≤ 0 then
    ['0', '.'] ++ List.replicate (-count).toNat '0' ++ digits
  else
    let whole := digits.take count.toNat
    let fraction := digits.drop count.toNat
    whole ++ List.replicate (count.toNat - whole.length) '0' ++ ['.'] ++
      (if fraction.isEmpty then ['0'] else fraction)

def Notation.render (form : Notation) (d : Scientific) : List Char :=
  let digits := Text.decimal d.digits
  let leading := d.exponent + digits.length - 1
  if d.digits = 0 then ['0', '.', '0']
  else if form.minPositional ≤ leading ∧ leading ≤ form.maxPositional then
    pointed digits (leading + 1)
  else
    let head := digits.take 1
    let tail := digits.drop 1
    head ++ (if tail.isEmpty then [] else '.' :: tail) ++ ['e'] ++
      [if leading < 0 then '-' else '+'] ++ Text.decimal leading.natAbs

def Binary64.render (x : Binary64) : String :=
  String.ofList ((if x.negative then ['-'] else []) ++ Notation.message.render x.magnitude.shortest)

end StartSignal.Decimal
