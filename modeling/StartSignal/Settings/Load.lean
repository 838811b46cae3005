/-
# StartSignal.Settings.Load -- where settings come from

Settings are layered: the file over the defaults, the environment over the file.
The file is laid over the JSON form of the defaults, so it needs to hold only what
it changes, and the result is decoded.  A file that is not there changes nothing.
What comes out is validated last, so the environment can mend a bad value of the
file.
-/
import StartSignal.Files.Tree
import StartSignal.Json.Merge
import StartSignal.Json.Parser
import StartSignal.Settings.Decode
import StartSignal.Settings.Override
import StartSignal.Text.Utf8

namespace StartSignal

inductive SettingsError where
  /-- The file could not be read. -/
  | unreadable (e : IoError)
  /-- The file is not JSON. -/
  | notJson (e : Json.ParseError)
  /-- The file does not hold settings. -/
  | notSettings (e : DataError)
  /-- A value makes a side useless. -/
  | invalid (e : InvalidSetting)
deriving DecidableEq, Repr

namespace SettingsError

/-- What lies behind the error, as text. -/
def cause : SettingsError → String
  | .unreadable e => e.message
  | .notJson e => e.message
  | .notSettings e => e.message
  | .invalid e => e.message

def message (e : SettingsError) : String :=
  match e with
  | .unreadable _ => "cannot read settings file: " ++ e.cause
  | .notJson _ | .notSettings _ => "malformed settings file: " ++ e.cause
  | .invalid _ => "invalid setting: " ++ e.cause

/-- The error with the errors behind it, each after a colon. -/
def chain (e : SettingsError) : String :=
  match e with
  | .invalid _ => e.message
  | _ => e.message ++ ": " ++ e.cause

end SettingsError

namespace Settings

open Log

/-- The value a file holds; `none` when it is not there. -/
def readFile : FileState → Except SettingsError (Option Json)
  | .absent => .ok none
  | .unreadable e => .error (.unreadable e)
  | .content bytes =>
    match Text.Utf8.decode? bytes with
    | none => .error (.unreadable .notText)
    | some cs =>
      match Json.parseChars cs with
      | .ok v => .ok (some v)
      | .error e => .error (.notJson e)

def overDefaults (v : Json) : Except SettingsError Settings :=
  match decode (Json.merge standard.json v) with
  | .ok s => .ok s
  | .error e => .error (.notSettings e)

def ofFile (file : FileState) : Except SettingsError Settings :=
  match readFile file with
  | .error e => .error e
  | .ok none =>
    match decode standard.json with
    | .ok s => .ok s
    | .error e => .error (.notSettings e)
  | .ok (some v) => overDefaults v

/-- What is reported about the file before it is read. -/
def fileRecord (path : Path) (file : FileState) : Record :=
  let text := match file with
    | .absent => "no settings file"
    | _ => "reading settings file"
  Source.loader.record .debug text [("path", .shown (Text.quoted path.render))]

/-- Load settings from the file at a path and from the environment. -/
def load (path : Path) (file : FileState) (lookup : Lookup) :
    Except SettingsError Settings × List Record :=
  let opening := [fileRecord path file]
  match ofFile file with
  | .error e => (.error e, opening)
  | .ok s =>
    let (s, log) := s.override lookup
    match s.validate with
    | .error e => (.error (.invalid e), opening ++ log)
    | .ok () => (.ok s, opening ++ log)

/-- Where the settings file is unless told otherwise: below the home of the user, if it is
known. -/
def defaultPath (home : Option Path) : Path :=
  ((home.getD (.ofText "/tmp")).child ".startgate").child "settings.json"

end Settings

end StartSignal
