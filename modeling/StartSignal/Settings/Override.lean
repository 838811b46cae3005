/-
# StartSignal.Settings.Override -- settings from the environment

Nine variables override one setting each, in a fixed order.  A text variable counts
unless it is empty.  A number variable counts when it is a number inside its range;
otherwise it is reported and passed over, also when it is empty.  The format counts
when it names one; otherwise it is reported, unless it is empty.
-/
import StartSignal.Log.Record
import StartSignal.Settings.Basic
import StartSignal.Settings.Range

namespace StartSignal

/-- The values of environment variables, where they are set and are text. -/
abbrev Lookup := String → Option String

namespace Override

open Log

/-- A settings value and the records made on the way to it. -/
abbrev Step := Settings → Settings × List Record

/-- What is reported about a number variable that does not count. -/
def rejectedNumber (name raw : String) (low high : Nat) : Record :=
  Source.loader.record .warn "out-of-range or non-numeric value, ignoring"
    [("key", .quoted name), ("value", .shown raw), ("min", .shown (Text.natText low)),
     ("max", .shown (Text.natText high))]

/-- What is reported about a format variable that does not count. -/
def rejectedFormat (name raw lowered : String) : Record :=
  Source.loader.record .warn "ignoring"
    [("key", .quoted name), ("value", .shown raw),
     ("error", .shown (Format.unknownMessage lowered))]

def text? (lookup : Lookup) (name : String) : Option String :=
  (lookup name).filter fun v => !v.isEmpty

def number? (lookup : Lookup) (name : String) (w : Width) (low high : Nat) : Option Nat :=
  ((lookup name).bind (parseInRange w low high)).map Int.toNat

def byText (lookup : Lookup) (name : String) (set : String → Settings → Settings) : Step :=
  fun s => match text? lookup name with
    | some v => (set v s, [])
    | none => (s, [])

def byNumber (lookup : Lookup) (name : String) (w : Width) (low high : Nat)
    (set : Nat → Settings → Settings) : Step :=
  fun s => match lookup name with
    | none => (s, [])
    | some raw =>
      match number? lookup name w low high with
      | some n => (set n s, [])
      | none => (s, [rejectedNumber name raw low high])

def byFormat (lookup : Lookup) (name : String) : Step :=
  fun s => match text? lookup name with
    | none => (s, [])
    | some raw =>
      match Format.parse raw with
      | .ok f => ({ s with logging := { s.logging with format := f } }, [])
      | .error lowered => (s, [rejectedFormat name raw lowered])

def listenHost : String := "STARTGATE_LISTEN_HOST"
def listenPort : String := "STARTGATE_LISTEN_PORT"
def idleTimeoutSecs : String := "STARTGATE_IDLE_TIMEOUT_SECS"
def messageCeiling : String := "STARTGATE_MESSAGE_CEILING"
def dispatchPort : String := "STARTGATE_DISPATCH_PORT"
def dispatchConcurrency : String := "STARTGATE_DISPATCH_CONCURRENCY"
def connectTimeoutMs : String := "STARTGATE_CONNECT_TIMEOUT_MS"
def logLevel : String := "STARTGATE_LOG_LEVEL"
def logFormat : String := "STARTGATE_LOG_FORMAT"

/-- The variables that override a setting. -/
def names : List String :=
  [listenHost, listenPort, idleTimeoutSecs, messageCeiling, dispatchPort, dispatchConcurrency,
   connectTimeoutMs, logLevel, logFormat]

/-- The overrides, in the order in which they are made. -/
def steps (lookup : Lookup) : List Step :=
  [byText lookup listenHost fun v s => { s with listener := { s.listener with host := v } },
   byNumber lookup listenPort .u16 1 65535 fun n s =>
     { s with listener := { s.listener with port := UInt16.ofNat n } },
   byNumber lookup idleTimeoutSecs .u64 0 86400 fun n s =>
     { s with listener := { s.listener with idleTimeoutSecs := UInt64.ofNat n } },
   byNumber lookup messageCeiling .u32 1 1000 fun n s =>
     { s with listener := { s.listener with messageCeiling := UInt32.ofNat n } },
   byNumber lookup dispatchPort .u16 1 65535 fun n s =>
     { s with dispatch := { s.dispatch with port := UInt16.ofNat n } },
   byNumber lookup dispatchConcurrency .u64 1 4096 fun n s =>
     { s with dispatch := { s.dispatch with maxConcurrency := some (UInt64.ofNat n) } },
   byNumber lookup connectTimeoutMs .u64 1 600000 fun n s =>
     { s with dispatch := { s.dispatch with connectTimeoutMs := UInt64.ofNat n } },
   byText lookup logLevel fun v s => { s with logging := { s.logging with level := v } },
   byFormat lookup logFormat]

def runSteps : List Step → Step
  | [], s => (s, [])
  | f :: fs, s =>
    let (s, log) := f s
    let (s, more) := runSteps fs s
    (s, log ++ more)

end Override

/-- The settings with those that the environment overrides, and what is reported. -/
def Settings.override (s : Settings) (lookup : Lookup) : Settings × List Log.Record :=
  Override.runSteps (Override.steps lookup) s

end StartSignal
