/-
# StartSignal.Log.Render -- records as output

As JSON a record is an object of its level, its target and its fields, the text
being the field `message`; a field of that name takes its place.  As text it is one
line: the level right-aligned to five characters, the target, the text, and each
field after its name and an equals sign; a field named `message` stands bare.  The
characters by which a message could steer a terminal are written as escapes.
-/
import StartSignal.Json.Printer
import StartSignal.Log.Config
import StartSignal.Log.Record

namespace StartSignal.Log

def FieldValue.json : FieldValue → Json
  | .number n => .nat n
  | .shown s | .quoted s => .string s

def Record.json (r : Record) : Json :=
  let fields := (messageField, Json.string r.text) :: r.fields.map fun f => (f.1, f.2.json)
  .ofMembers [("level", .string r.level.name), ("target", .string r.target),
    ("fields", .ofMembers fields)]

/-- How a character of a message stands on a terminal. -/
def terminalChar (c : Char) : List Char :=
  if c = '\x1b' ∨ c = '\x07' ∨ c = '\x08' ∨ c = '\x0c' ∨ c = '\x7f' then
    ['\\', 'x', Text.hexDigitChar (c.toNat / 16), Text.hexDigitChar (c.toNat % 16)]
  else if 0x80 ≤ c.toNat ∧ c.toNat ≤ 0x9f then Text.codePointEscape c
  else [c]

def terminalText (s : String) : String := String.ofList (s.toList.flatMap terminalChar)

def FieldValue.text : FieldValue → String
  | .number n => Text.natText n
  | .shown s => s
  | .quoted s => Text.quoted s

def fieldText (f : String × FieldValue) : String :=
  if f.1 = messageField then
    terminalText (match f.2 with | .number n => Text.natText n | .shown s | .quoted s => s)
  else f.1 ++ "=" ++ f.2.text

/-- The level, right-aligned to five characters. -/
def Level.aligned (l : Level) : String :=
  String.ofList (List.replicate (5 - l.name.length) ' ') ++ l.name

def Record.line (r : Record) : String :=
  (r.fields.map fieldText).foldl (fun s f => s ++ " " ++ f)
    (r.level.aligned ++ " " ++ r.target ++ ": " ++ terminalText r.text)

inductive Line where
  | json (v : Json)
  | text (s : String)

def Format.line : Format → Record → Line
  | .json, r => .json r.json
  | .text, r => .text r.line

/-- A line with the time at which it is written. -/
def Line.stamped (time : String) : Line → String
  | .json (.object ms) => (Json.object (Members.insert ms "timestamp" (.string time))).render
  | .json v => v.render
  | .text s => time ++ " " ++ s

end StartSignal.Log
