/-
# StartSignal.Json.Value -- JSON values

Numbers come in two kinds that never compare equal: whole numbers, which stay
exact, and doubles.  The members of an object are kept in the order of their
names, so two objects with the same members are the same value.
-/
import StartSignal.Decimal.Binary64
import StartSignal.Json.Members

namespace StartSignal

inductive Number where
  /-- A whole number that fits in 64 bits, with or without a sign bit. -/
  | whole (n : Int)
  /-- Any other number. -/
  | double (x : Decimal.Binary64)
deriving DecidableEq, Repr

inductive Json where
  | null
  | bool (b : Bool)
  | number (n : Number)
  | string (s : String)
  | array (items : List Json)
  | object (members : List (String × Json))
deriving Repr, Inhabited

namespace Json

def nat (n : Nat) : Json := .number (.whole n)

def isNull : Json → Bool
  | .null => true
  | _ => false

/-- The object with the given members, the last of several with one name. -/
def ofMembers (ms : List (String × Json)) : Json := .object (Members.ofList ms)

/-- A member of an object; `none` of any other value. -/
def get? : Json → String → Option Json
  | .object ms, key => Members.get? ms key
  | _, _ => none

/-- The value at the end of a path of member names; `none` when a step is not an object
or has no such member. -/
def at? : Json → List String → Option Json
  | v, [] => some v
  | v, key :: path => (v.get? key).bind fun w => at? w path

end Json

end StartSignal
