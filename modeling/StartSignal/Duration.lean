/-
# StartSignal.Duration -- lengths of time and how they read

A duration is a whole number of nanoseconds.  It is written in the largest of the
units s, ms, µs and ns that is not longer than itself (ns for zero), as a decimal
with no more fractional digits than it needs.
-/
import StartSignal.Text.Numeral

namespace StartSignal

structure Duration where
  /-- Its nanoseconds. -/
  nanos : Nat
deriving DecidableEq, Repr

namespace Duration

def nanosPerSecond : Nat := 1000000000

def nanosPerMilli : Nat := 1000000

def nanosPerMicro : Nat := 1000

def ofSeconds (n : Nat) : Duration := ⟨n * nanosPerSecond⟩

def ofMillis (n : Nat) : Duration := ⟨n * nanosPerMilli⟩

def seconds (d : Duration) : Nat := d.nanos / nanosPerSecond

/-- `digits` decimal places of `rest`, without trailing zeros. -/
def places (rest digits : Nat) : List Char :=
  let written := Text.decimal rest
  let padded := List.replicate (digits - written.length) '0' ++ written
  (padded.reverse.dropWhile (· = '0')).reverse

/-- `nanos` as a decimal in units of `10 ^ digits` nanoseconds. -/
def inUnits (nanos digits : Nat) (symbol : List Char) : List Char :=
  let fraction := places (nanos % Nat.pow 10 digits) digits
  Text.decimal (nanos / Nat.pow 10 digits) ++
    (if fraction.isEmpty then [] else '.' :: fraction) ++ symbol

def render (d : Duration) : String :=
  String.ofList <|
    if nanosPerSecond ≤ d.nanos then inUnits d.nanos 9 ['s']
    else if nanosPerMilli ≤ d.nanos then inUnits d.nanos 6 ['m', 's']
    else if nanosPerMicro ≤ d.nanos then inUnits d.nanos 3 ['µ', 's']
    else inUnits d.nanos 0 ['n', 's']

end Duration

end StartSignal
