/-
# StartSignal.Log.Directive -- one directive of a filter

A directive names a level, or a target, or a target and a level after an equals sign; a
target without a level shows everything.  Between brackets it may name a span, and
between braces in them a field.

A directive is scanned without the blanks around it.  Its parts are then cut out of the
text with its blanks, at the bytes where they were found; so after leading blanks they
are not what was scanned, and where such a place falls inside a character there is no
part to be cut out.
-/
import StartSignal.Log.Condition
import StartSignal.Log.Record
import StartSignal.Text.Basic

namespace StartSignal.Log

structure Directive where
  /-- What the targets it applies to start with; `none` for all. -/
  target : Option String
  /-- Whether it applies inside named spans only. -/
  spanned : Bool
  /-- What it asks of a field, if anything. -/
  condition : Option Condition
  /-- The least important level it shows; `none` to show nothing. -/
  level : Option Level
deriving DecidableEq, Repr

inductive DirectiveError where
  | malformed
  | pattern (e : PatternError)
  | unknownLevel
  /-- A part that was found cannot be cut out. -/
  | torn
deriving DecidableEq, Repr

def DirectiveError.message : DirectiveError → String
  | .malformed => "invalid filter directive"
  | .pattern e => "invalid field filter: " ++ e.message
  | .unknownLevel =>
    "error parsing level filter: expected one of \"off\", \"error\", \"warn\", " ++
      "\"info\", \"debug\", \"trace\", or a number 0-5"
  | .torn => "part of a filter directive ends inside a character"

/-- The threshold a text names: a level, or `none` for a level that shows nothing. -/
def threshold? (s : String) : Option (Option Level) :=
  if (Text.unsigned? s.toList) = some 0 then some none
  else match Level.parse? s with
    | some l => some (some l)
    | none =>
      if s.isEmpty then some (some .error)
      else if Text.lower s = "off" then some none
      else none

/-- How far a directive has been scanned.  A part that is being scanned is given by the
byte at which it starts. -/
inductive Scan where
  | start
  /-- Inside a level or target. -/
  | word (first : Nat)
  /-- Inside the name of a span. -/
  | span (first : Nat)
  /-- Inside a condition. -/
  | field (first : Nat)
  /-- After the conditions. -/
  | fields
  /-- After a span. -/
  | target
  /-- Inside a level. -/
  | level (first : Nat)
deriving DecidableEq, Repr

namespace Directive

/-- What a directive is before anything is read of it. -/
def initial : Directive := ⟨none, false, none, some .trace⟩

def opensTarget (c : Char) : Bool :=
  c = '-' || c = ':' || c = '_' || Text.isAlphanumeric c

/-- The part of `text` from byte `first` to before byte `last`. -/
def part (text : List Char) (first last : Nat) : Except DirectiveError (List Char) :=
  match Text.cut? text first last with
  | some cs => .ok cs
  | none => .error .torn

def partFrom (text : List Char) (first : Nat) : Except DirectiveError String :=
  match Text.cutFrom? text first with
  | some cs => .ok (String.ofList cs)
  | none => .error .torn

def withTarget (d : Directive) (text : List Char) (first last : Nat) :
    Except DirectiveError Directive :=
  (part text first last).map fun cs => { d with target := some (String.ofList cs) }

def withCondition (d : Directive) (text : List Char) (first last : Nat) :
    Except DirectiveError Directive := do
  let cs ← part text first last
  if cs.isEmpty then .error .malformed
  else match Condition.parse cs with
    | .ok c => .ok { d with condition := some c }
    | .error e => .error (.pattern e)

def scan (text : List Char) (d : Directive) (s : Scan) (i : Nat) (c : Char) :
    Except DirectiveError (Directive × Scan) :=
  match s with
  | .start =>
    if c = '[' then .ok (d, .span (i + 1))
    else if opensTarget c then .ok (d, .word i)
    else .error .malformed
  | .word first =>
    if c = '=' then (d.withTarget text first i).map fun d => (d, .level (i + 1))
    else if c = '[' then (d.withTarget text first i).map fun d => (d, .span (i + 1))
    else .ok (d, s)
  | .span first =>
    if c = ']' then (part text first i).map fun _ => ({ d with spanned := true }, .target)
    else if c = '\x7b' then
      (part text first i).map fun name => ({ d with spanned := !name.isEmpty }, .field (i + 1))
    else .ok (d, s)
  | .field first =>
    if c = '\x7d' then (d.withCondition text first i).map fun d => (d, .fields) else .ok (d, s)
  | .fields => if c = ']' then .ok (d, .target) else .error .malformed
  | .target => if c = '=' then .ok (d, .level (i + 1)) else .error .malformed
  | .level _ => .ok (d, s)

/-- Scan the characters `cs`, the first of them at byte `i`. -/
def scanAll (text : List Char) : Directive × Scan → Nat → List Char →
    Except DirectiveError (Directive × Scan)
  | so_far, _, [] => .ok so_far
  | (d, s), i, c :: cs =>
    (scan text d s i c).bind fun next => scanAll text next (i + c.utf8Size) cs

/-- Take over the level that a text names. -/
def withLevel (d : Directive) (word : String) : Except DirectiveError Directive :=
  if word.isEmpty then .ok { d with level := some .trace }
  else match threshold? word with
    | some level => .ok { d with level }
    | none => .error .unknownLevel

/-- Take over a word that is a level, or else a target. -/
def withWord (d : Directive) (word : String) : Directive :=
  if word.isEmpty then { d with level := some .trace, target := none }
  else match threshold? word with
    | some level => { d with level, target := none }
    | none => { d with level := some .trace, target := some word }

def close (text : List Char) : Directive × Scan → Except DirectiveError Directive
  | (d, .word first) => (partFrom text first).map d.withWord
  | (d, .level first) => (partFrom text first).bind d.withLevel
  | (d, .target) => .ok d
  | (_, _) => .error .malformed

def parse (text : String) : Except DirectiveError Directive :=
  let cs := text.toList
  (scanAll cs (initial, .start) 0 (Text.trim cs)).bind (close cs)

/-- Whether the directive speaks about records outside of spans: it names no span, and
asks for no value. -/
def isPlain (d : Directive) : Bool := !d.spanned && d.condition.all fun c => !c.valued

def appliesTo (d : Directive) (r : Record) : Bool :=
  d.isPlain && d.target.all (fun t => t.toList.isPrefixOf r.target.toList) &&
    d.condition.all fun c => r.fieldNames.contains c.field

/-- How long the target of the directive is. -/
def weight (d : Directive) : Nat :=
  match d.target with
  | none => 0
  | some t => t.length + 1

/-- Whether `e` is at least as particular as `d`: its target is longer, or of two for one
target, `e` asks for a field and `d` for none or for one that does not come after it. -/
def yieldsTo (d e : Directive) : Bool :=
  d.weight < e.weight || d.weight = e.weight && match d.condition, e.condition with
    | none, _ => true
    | some _, none => false
    | some c, some c' => !decide (c'.field < c.field)

end Directive

end StartSignal.Log
