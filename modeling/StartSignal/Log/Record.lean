/-
# StartSignal.Log.Record -- log records

A record has a level, the part of the program it comes from (its target), a text
and named fields in the order they were given.  A field is a number, a text to be
shown as it is, or a text to be quoted where quotes are needed to see its ends.

The program never prints a record itself: every operation returns the records it
makes.
-/
import StartSignal.Log.Level
import StartSignal.Text.Quoted

namespace StartSignal.Log

inductive FieldValue where
  | number (n : Nat)
  | shown (s : String)
  | quoted (s : String)
deriving DecidableEq, Repr

structure Record where
  level : Level
  /-- The part of the program the record comes from. -/
  target : String
  /-- What happened. -/
  text : String
  /-- The particulars, in order. -/
  fields : List (String × FieldValue)
deriving DecidableEq, Repr

/-- The name of the field that holds the text of a record. -/
def messageField : String := "message"

namespace Record

/-- The names of what a record holds: of its text, and of its fields. -/
def fieldNames (r : Record) : List String := messageField :: r.fields.map (·.1)

/-- The text of a field, if the record has it and it is one. -/
def field? (r : Record) (name : String) : Option FieldValue :=
  (r.fields.find? fun f => f.1 = name).map (·.2)

end Record

/-- Where records come from. -/
inductive Source where
  | main
  | commands
  | shutdown
  | session
  | dispatcher
  | loader
deriving DecidableEq, Repr

/-- The target of the records from a part of the program. -/
def Source.target : Source → String
  | .main => "startgate"
  | .commands => "startgate::commands"
  | .shutdown => "startgate::shutdown"
  | .session => "startgate_listener::session"
  | .dispatcher => "startgate_dispatch::dispatcher"
  | .loader => "startgate_settings::loader"

def Source.record (s : Source) (level : Level) (text : String)
    (fields : List (String × FieldValue)) : Record :=
  ⟨level, s.target, text, fields⟩

end StartSignal.Log
