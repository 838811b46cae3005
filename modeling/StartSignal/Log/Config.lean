/-
# StartSignal.Log.Config -- how the log is set up

The log has a default level, levels of its own for some modules, and a format.  Its
filter text is the default level followed by one `module=level` for each module, in
order and between commas.
-/
import StartSignal.Log.Level

namespace StartSignal.Log

inductive Format where
  /-- One JSON object a line. -/
  | json
  /-- One readable line a record. -/
  | text
deriving DecidableEq, Repr

namespace Format

def name : Format → String
  | .json => "json"
  | .text => "text"

/-- The format a text names in any mix of ASCII cases, or the text in lower case. -/
def parse (s : String) : Except String Format :=
  let t := Text.lower s
  if t = "json" then .ok .json
  else if t = "text" ∨ t = "pretty" then .ok .text
  else .error t

/-- What is said about a text that names no format, given in lower case. -/
def unknownMessage (lowered : String) : String := "unknown log format: " ++ lowered

end Format

structure Config where
  /-- The level of everything without one of its own. -/
  level : Level
  /-- The levels of modules, in order. -/
  moduleLevels : List (String × Level)
  format : Format
deriving DecidableEq, Repr

namespace Config

/-- The log as it is without settings. -/
def standard : Config := ⟨.info, [], .json⟩

def directiveText (m : String × Level) : String := m.1 ++ "=" ++ m.2.lowerName

def filterText (c : Config) : String :=
  c.moduleLevels.foldl (fun s m => s ++ "," ++ directiveText m) c.level.lowerName

end Config

end StartSignal.Log
