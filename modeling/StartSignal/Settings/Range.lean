/-
# StartSignal.Settings.Range -- numbers inside a range

A text gives a number inside a range when, without the blanks around it, it is a
numeral of the type and the number lies between the ends of the range, both
included.  An unsigned type knows a plus sign only.
-/
import StartSignal.Text.Basic
import StartSignal.Text.Numeral

namespace StartSignal

structure Width where
  bits : Nat
  /-- Whether one of the bits is a sign. -/
  signed : Bool
deriving DecidableEq, Repr

namespace Width

def low (w : Width) : Int := if w.signed then -(Nat.pow 2 (w.bits - 1) : Int) else 0

def high (w : Width) : Int := (Nat.pow 2 (if w.signed then w.bits - 1 else w.bits) : Int) - 1

/-- The number a numeral of the type stands for. -/
def numeral? (w : Width) (cs : List Char) : Option Int :=
  (if w.signed then Text.signed? cs else (Text.unsigned? cs).map Int.ofNat).filter fun n =>
    w.low ≤ n ∧ n ≤ w.high

def u8 : Width := ⟨8, false⟩
def u16 : Width := ⟨16, false⟩
def u32 : Width := ⟨32, false⟩
def u64 : Width := ⟨64, false⟩
def i32 : Width := ⟨32, true⟩
def i64 : Width := ⟨64, true⟩

end Width

/-- The number of type `w` between `low` and `high` that a text gives. -/
def parseInRange (w : Width) (low high : Int) (raw : String) : Option Int :=
  (w.numeral? (Text.trim raw.toList)).filter fun n => low ≤ n ∧ n ≤ high

end StartSignal
