/-
# StartSignal.Program.Startup -- from a command line to a command at the ready

The program reads its command line, loads its settings, and only then sets up its
log.  So what the loading reports is never shown, and a failure of the loading is a
plain message, as is that of a log that cannot be set up.  Levels that are none are the
first thing the log reports.
-/
import StartSignal.CommandLine.Config
import StartSignal.Log.Setup
import StartSignal.Settings.Load

namespace StartSignal.Program

open CommandLine Log

/-- The exit status of a program that could not do what was asked. -/
def failureExitCode : UInt8 := 1

/-- The exit status of a dispatch that missed a worker. -/
def dispatchFailedExitCode : UInt8 := 1

/-- The exit status of a program brought down by a limit or by a text it cannot cut. -/
def crashExitCode : UInt8 := 101

structure LoadFailure where
  /-- The path given on the command line, if any. -/
  path : Option String
  cause : SettingsError
deriving DecidableEq, Repr

def LoadFailure.message (e : LoadFailure) : String :=
  let source := match e.path with
    | some p => " from " ++ p
    | none => ""
  "startgate: failed to load settings" ++ source ++ ": " ++ e.cause.chain

inductive StartFailure where
  | load (e : LoadFailure)
  /-- A directive of the log's filter is torn. -/
  | log
deriving DecidableEq, Repr

namespace StartFailure

def exitCode : StartFailure → UInt8
  | .load _ => failureExitCode
  | .log => crashExitCode

def lines : StartFailure → List String
  | .load e => [e.message]
  | .log => [DirectiveError.torn.message]

end StartFailure

/-- A program that is ready to carry out its command. -/
structure Ready where
  command : Command
  settings : Settings
  log : Setup
  /-- What was found wrong with the directives of the log. -/
  complaints : List String
  /-- What the log reports first. -/
  opening : List Record

/-- The variable that names the home of the user. -/
def homeVariable : String := "HOME"

/-- The variables of the environment whose text the program looks at. -/
def variableNames : List String := filterVariable :: Override.names

def settingsPath (i : Invocation) (home : Option Path) : Path :=
  (i.settingsPath.map .ofText).getD (Settings.defaultPath home)

/-- What is reported about an entry that names no level. -/
def ignoredRecord (entry : String) : Record :=
  Source.main.record .warn "invalid log level, ignoring" [("setting", .shown entry)]

/-- Get ready with settings that have been loaded. -/
def ready (command : Command) (settings : Settings) (lookup : Lookup) :
    Except StartFailure Ready :=
  match Setup.ofConfig settings.logging.config (lookup filterVariable) with
  | none => .error .log
  | some (log, complaints) =>
    .ok ⟨command, settings, log, complaints, settings.logging.ignored.map ignoredRecord⟩

def prepare (i : Invocation) (home : Option Path) (file : Path → FileState) (lookup : Lookup) :
    Except StartFailure Ready :=
  let path := settingsPath i home
  match (Settings.load path (file path) lookup).1 with
  | .error cause => .error (.load ⟨i.settingsPath, cause⟩)
  | .ok settings => ready i.command settings lookup

end StartSignal.Program
