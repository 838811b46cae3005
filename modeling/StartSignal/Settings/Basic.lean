/-
# StartSignal.Settings.Basic -- the settings of both sides

The settings have three sections: what a worker listens with, what a controller
dispatches with, and how the log is written.  `validate` refuses the two values that
would make a side useless: a message ceiling of zero and a concurrency of zero.
-/
import StartSignal.Json.Members
import StartSignal.Log.Config

namespace StartSignal

/-- The port both sides use unless told otherwise. -/
def startPort : UInt16 := 50000

/-- How many messages of noise a listener bears unless told otherwise. -/
def defaultCeiling : UInt32 := 5

structure ListenerSettings where
  /-- The address to bind. -/
  host : String
  /-- The port to bind. -/
  port : UInt16
  /-- How long to wait for a controller, in seconds. -/
  idleTimeoutSecs : UInt64
  /-- How many messages of noise to bear. -/
  messageCeiling : UInt32
deriving DecidableEq, Repr

structure DispatchSettings where
  /-- The port the workers listen on. -/
  port : UInt16
  /-- The most attempts at one time; `none` for as many as the host suggests. -/
  maxConcurrency : Option UInt64
  /-- How long an attempt may take to connect, in milliseconds. -/
  connectTimeoutMs : UInt64
deriving DecidableEq, Repr

structure LoggingSettings where
  /-- The default level, as text. -/
  level : String
  format : Log.Format
  /-- The levels of modules, as text. -/
  modules : Members String
deriving DecidableEq, Repr

structure Settings where
  listener : ListenerSettings
  dispatch : DispatchSettings
  logging : LoggingSettings
deriving DecidableEq, Repr

/-- A value that makes a side useless. -/
inductive InvalidSetting where
  | zeroCeiling
  | zeroConcurrency
deriving DecidableEq, Repr

def InvalidSetting.message : InvalidSetting → String
  | .zeroCeiling => "listener.messageCeiling must be at least 1"
  | .zeroConcurrency => "dispatch.maxConcurrency must be at least 1"

def ListenerSettings.standard : ListenerSettings := ⟨"0.0.0.0", startPort, 60, defaultCeiling⟩

def DispatchSettings.standard : DispatchSettings := ⟨startPort, none, 10000⟩

def LoggingSettings.standard : LoggingSettings := ⟨"info", .json, []⟩

namespace Settings

/-- The settings of a program that has been told nothing. -/
def standard : Settings := ⟨.standard, .standard, .standard⟩

def validate (s : Settings) : Except InvalidSetting Unit :=
  if s.listener.messageCeiling = 0 then .error .zeroCeiling
  else if s.dispatch.maxConcurrency = some 0 then .error .zeroConcurrency
  else .ok ()

end Settings

namespace LoggingSettings

/-- What is said about a default level that is none. -/
def ignoredLevel (value : String) : String := "logging.level=" ++ value

/-- What is said about a module's level that is none. -/
def ignoredModule (m : String × String) : String := "logging.modules." ++ m.1 ++ "=" ++ m.2

/-- The modules whose level is one, with it, in order. -/
def moduleLevels (s : LoggingSettings) : List (String × Log.Level) :=
  s.modules.filterMap fun m => (Log.Level.parse? m.2).map fun l => (m.1, l)

/-- The entries that name no level, in order, the default level first. -/
def ignored (s : LoggingSettings) : List String :=
  (if (Log.Level.parse? s.level).isNone then [ignoredLevel s.level] else []) ++
    (s.modules.filter fun m => (Log.Level.parse? m.2).isNone).map ignoredModule

/-- How the log is set up.  A default level that is none gives way to `info`, and a
module whose level is none is left out. -/
def config (s : LoggingSettings) : Log.Config :=
  ⟨(Log.Level.parse? s.level).getD .info, s.moduleLevels, s.format⟩

end LoggingSettings

end StartSignal
