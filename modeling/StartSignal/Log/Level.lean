/-
# StartSignal.Log.Level -- how much a log record matters

Five levels, from the one that is shown most to the one that is shown least.  A
level is named by its English name in any mix of ASCII cases or by its rank, a
numeral from 1 to 5.
-/
import StartSignal.Text.Basic
import StartSignal.Text.Numeral

namespace StartSignal.Log

inductive Level where
  | error
  | warn
  | info
  | debug
  | trace
deriving DecidableEq, Repr

namespace Level

/-- The position of a level among the five, counted from one. -/
def rank : Level → Nat
  | .error => 1
  | .warn => 2
  | .info => 3
  | .debug => 4
  | .trace => 5

def lowerName : Level → String
  | .error => "error"
  | .warn => "warn"
  | .info => "info"
  | .debug => "debug"
  | .trace => "trace"

def name : Level → String
  | .error => "ERROR"
  | .warn => "WARN"
  | .info => "INFO"
  | .debug => "DEBUG"
  | .trace => "TRACE"

def ofRank? : Nat → Option Level
  | 1 => some .error
  | 2 => some .warn
  | 3 => some .info
  | 4 => some .debug
  | 5 => some .trace
  | _ => none

def ofLowerName? (s : String) : Option Level :=
  if s = "error" then some .error
  else if s = "warn" then some .warn
  else if s = "info" then some .info
  else if s = "debug" then some .debug
  else if s = "trace" then some .trace
  else none

/-- The level a text names, by rank or by name. -/
def parse? (s : String) : Option Level :=
  ((Text.unsigned? s.toList).bind ofRank?).or (ofLowerName? (Text.lower s))

end Level

end StartSignal.Log
