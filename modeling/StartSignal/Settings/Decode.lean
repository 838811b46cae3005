/-
# StartSignal.Settings.Decode -- settings from JSON and back

A section is an object whose members are looked at in the order of their names: a
member that names a setting gives it its value, an unknown one is passed over, and a
setting that is not named keeps its default.  The first member that does not fit is
the error.  A section may also be an array of the values in the order in which the
settings are declared; a shorter array leaves the rest at their defaults.

A number that is not whole never fits a whole setting.  The format is a word, or an
object with that word as its only member and null as its value.

Written out, every setting is a member of its section, under its name in camel case.  An absent
concurrency and an empty table of modules are left out.
-/
import StartSignal.Decimal.Shortest
import StartSignal.Json.Value
import StartSignal.Settings.Basic
import StartSignal.Text.Quoted

namespace StartSignal

/-- Why a value does not fit. -/
inductive DataError where
  /-- A value of another kind. -/
  | invalidType (found expected : String)
  /-- A value of the right kind that is not allowed. -/
  | invalidValue (found expected : String)
  /-- An array that is too long. -/
  | invalidLength (length : Nat)
  /-- A word that is no format. -/
  | unknownFormat (word : String)
deriving DecidableEq, Repr

def DataError.message : DataError → String
  | .invalidType found expected => "invalid type: " ++ found ++ ", expected " ++ expected
  | .invalidValue found expected => "invalid value: " ++ found ++ ", expected " ++ expected
  | .invalidLength n =>
    "invalid length " ++ Text.natText n ++ ", expected fewer elements in array"
  | .unknownFormat word => "unknown variant `" ++ word ++ "`, expected `json` or `text`"

namespace Json

def description : Json → String
  | .null => "null"
  | .bool b => "boolean `" ++ (if b then "true" else "false") ++ "`"
  | .number (.whole n) => "integer `" ++ Text.intText n ++ "`"
  | .number (.double x) => "floating point `" ++ x.render ++ "`"
  | .string s => "string " ++ Text.quoted s
  | .array _ => "sequence"
  | .object _ => "map"

/-- Refuse a value that is of another kind than expected. -/
def refuse {α : Type} (v : Json) (expected : String) : Except DataError α :=
  .error (.invalidType v.description expected)

def decodeText : Json → Except DataError String
  | .string s => .ok s
  | v => v.refuse "a string"

/-- A whole number below `limit`; `expected` names the type in errors. -/
def decodeNat (limit : Nat) (expected : String) : Json → Except DataError Nat
  | .number (.whole n) =>
    if 0 ≤ n ∧ n < limit then .ok n.toNat
    else .error (.invalidValue (Json.number (.whole n)).description expected)
  | v => v.refuse expected

def decodeUInt16 (v : Json) : Except DataError UInt16 :=
  (v.decodeNat UInt16.size "u16").map UInt16.ofNat

def decodeUInt32 (v : Json) : Except DataError UInt32 :=
  (v.decodeNat UInt32.size "u32").map UInt32.ofNat

def decodeUInt64 (v : Json) : Except DataError UInt64 :=
  (v.decodeNat UInt64.size "u64").map UInt64.ofNat

/-- A count that may be absent. -/
def decodeCount : Json → Except DataError (Option UInt64)
  | .null => .ok none
  | v => (v.decodeNat UInt64.size "usize").map fun n => some (UInt64.ofNat n)

def decodeTexts : List (String × Json) → Except DataError (List (String × String))
  | [] => .ok []
  | (k, v) :: ms => do
    let s ← v.decodeText
    let rest ← decodeTexts ms
    return (k, s) :: rest

def decodeTable : Json → Except DataError (Members String)
  | .object ms => decodeTexts ms
  | v => v.refuse "a map"

def formatOfWord (word : String) : Except DataError Log.Format :=
  if word = Log.Format.json.name then .ok .json
  else if word = Log.Format.text.name then .ok .text
  else .error (.unknownFormat word)

def decodeFormat : Json → Except DataError Log.Format
  | .string word => formatOfWord word
  | .object [(word, v)] => do
    let f ← formatOfWord word
    match v with
    | .null => return f
    | v => v.refuse "unit"
  | .object ms => .error (.invalidValue (Json.object ms).description "map with a single key")
  | v => v.refuse "string or map"

/-- A section whose settings are declared in the order `names`, changed one by one by
`set` from its defaults. -/
def decodeSection {σ : Type} (title : String) (names : List String)
    (set : σ → String × Json → Except DataError σ) (defaults : σ) : Json → Except DataError σ
  | .object ms => ms.foldlM set defaults
  | .array items => do
    let s ← (names.zip items).foldlM set defaults
    if items.length ≤ names.length then return s else throw (.invalidLength items.length)
  | v => v.refuse ("struct " ++ title)

end Json

namespace ListenerSettings

/-- Give the setting a member names the member's value. -/
def set (s : ListenerSettings) (m : String × Json) : Except DataError ListenerSettings :=
  if m.1 = "host" then m.2.decodeText.map fun x => { s with host := x }
  else if m.1 = "port" then m.2.decodeUInt16.map fun x => { s with port := x }
  else if m.1 = "idleTimeoutSecs" then
    m.2.decodeUInt64.map fun x => { s with idleTimeoutSecs := x }
  else if m.1 = "messageCeiling" then
    m.2.decodeUInt32.map fun x => { s with messageCeiling := x }
  else .ok s

def decode : Json → Except DataError ListenerSettings :=
  Json.decodeSection "ListenerSettings" ["host", "port", "idleTimeoutSecs", "messageCeiling"]
    set standard

end ListenerSettings

namespace DispatchSettings

/-- Give the setting a member names the member's value. -/
def set (s : DispatchSettings) (m : String × Json) : Except DataError DispatchSettings :=
  if m.1 = "port" then m.2.decodeUInt16.map fun x => { s with port := x }
  else if m.1 = "maxConcurrency" then
    m.2.decodeCount.map fun x => { s with maxConcurrency := x }
  else if m.1 = "connectTimeoutMs" then
    m.2.decodeUInt64.map fun x => { s with connectTimeoutMs := x }
  else .ok s

def decode : Json → Except DataError DispatchSettings :=
  Json.decodeSection "DispatchSettings" ["port", "maxConcurrency", "connectTimeoutMs"]
    set standard

end DispatchSettings

namespace LoggingSettings

/-- Give the setting a member names the member's value. -/
def set (s : LoggingSettings) (m : String × Json) : Except DataError LoggingSettings :=
  if m.1 = "level" then m.2.decodeText.map fun x => { s with level := x }
  else if m.1 = "format" then m.2.decodeFormat.map fun x => { s with format := x }
  else if m.1 = "modules" then m.2.decodeTable.map fun x => { s with modules := x }
  else .ok s

def decode : Json → Except DataError LoggingSettings :=
  Json.decodeSection "LoggingSettings" ["level", "format", "modules"] set standard

end LoggingSettings

namespace Settings

/-- Give the section a member names the member's value. -/
def set (s : Settings) (m : String × Json) : Except DataError Settings :=
  if m.1 = "listener" then (ListenerSettings.decode m.2).map fun x => { s with listener := x }
  else if m.1 = "dispatch" then
    (DispatchSettings.decode m.2).map fun x => { s with dispatch := x }
  else if m.1 = "logging" then (LoggingSettings.decode m.2).map fun x => { s with logging := x }
  else .ok s

def decode : Json → Except DataError Settings :=
  Json.decodeSection "StartgateSettings" ["listener", "dispatch", "logging"] set standard

end Settings

/-! ## Settings as JSON -/

def ListenerSettings.json (s : ListenerSettings) : Json :=
  .ofMembers [("host", .string s.host), ("port", .nat s.port.toNat),
    ("idleTimeoutSecs", .nat s.idleTimeoutSecs.toNat),
    ("messageCeiling", .nat s.messageCeiling.toNat)]

def DispatchSettings.json (s : DispatchSettings) : Json :=
  .ofMembers <|
    [("port", .nat s.port.toNat), ("connectTimeoutMs", .nat s.connectTimeoutMs.toNat)] ++
      match s.maxConcurrency with
      | some n => [("maxConcurrency", .nat n.toNat)]
      | none => []

def LoggingSettings.json (s : LoggingSettings) : Json :=
  .ofMembers <|
    [("level", .string s.level), ("format", .string s.format.name)] ++
      if s.modules.isEmpty then []
      else [("modules", .object (s.modules.map fun m => (m.1, .string m.2)))]

def Settings.json (s : Settings) : Json :=
  .ofMembers [("listener", s.listener.json), ("dispatch", s.dispatch.json),
    ("logging", s.logging.json)]

end StartSignal
