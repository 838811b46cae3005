/-
# StartSignal.CommandLine.Command -- the two commands and how they are asked for

    [--settings PATH] listen [TIMEOUT_SECS] [--host H] [--port N] [--ceiling N]
    [--settings PATH] dispatch NETWORK HOST_IDS [--port N] [--concurrency N]
                               [--connect-timeout-ms N]

The path of the settings may also be given among the options of the command, and
counts more there.  The faults of a command are reported before a bad value of the
program's own option.  `help` asks for help on the command named after it.
-/
import StartSignal.CommandLine.Grammar
import StartSignal.Settings.Range

namespace StartSignal.CommandLine

structure ListenRequest where
  timeoutSecs : Option UInt64 := none
  host : Option String := none
  port : Option UInt16 := none
  ceiling : Option UInt32 := none
deriving DecidableEq, Repr

structure DispatchOptions where
  port : Option UInt16 := none
  concurrency : Option UInt64 := none
  connectTimeoutMs : Option UInt64 := none
deriving DecidableEq, Repr

structure DispatchRequest where
  /-- The part of the address shared by the fleet. -/
  network : String
  /-- The host ids between commas. -/
  hostIds : String
  options : DispatchOptions
deriving DecidableEq, Repr

inductive Command where
  | listen (request : ListenRequest)
  | dispatch (request : DispatchRequest)
deriving DecidableEq, Repr

/-- A command line that leads to a command. -/
structure Invocation where
  /-- Where the settings are, if that is said. -/
  settingsPath : Option String
  command : Command
deriving DecidableEq, Repr

/-- A number of type `w` between `low` and `high`. -/
def number (w : Width) (low high : Nat) (raw : String) : Except Halt Nat :=
  match (w.numeral? raw.toList).filter fun n => (low : Int) ≤ n ∧ n ≤ high with
  | some n => .ok n.toNat
  | none => .error .malformedValue

def portNumber (raw : String) : Except Halt UInt16 :=
  (number .i64 0 65535 raw).map UInt16.ofNat

/-- A number of 64 bits that is at least `low`. -/
def longNumber (low : Nat) (raw : String) : Except Halt UInt64 :=
  (number .u64 low (UInt64.size - 1) raw).map UInt64.ofNat

def ceilingNumber (raw : String) : Except Halt UInt32 :=
  (number .i64 1 4294967295 raw).map UInt32.ofNat

/-- The values of a level together with the path of the settings. -/
structure WithPath (σ : Type) where
  path : Option String := none
  values : σ

namespace Slot

/-- The option that gives the path, which may not be empty. -/
def settingsPath {σ : Type} : Slot (WithPath σ) where
  name := "settings"
  isGiven v := v.path.isSome
  set raw v := if raw.isEmpty then .error .missingValue else .ok { v with path := some raw }

/-- A place among the values, for what `read` makes of a text. -/
def ofValue {σ α : Type} (name : String) (read : String → Except Halt α) (get : σ → Option α)
    (set : α → σ → σ) : Slot (WithPath σ) where
  name := name
  isGiven v := (get v.values).isSome
  set raw v := (read raw).map fun x => { v with values := set x v.values }

end Slot

namespace ListenRequest

def grammar : Grammar (WithPath ListenRequest) where
  options :=
    [.ofValue "host" .ok host fun x v => { v with host := some x },
     .ofValue "port" portNumber port fun x v => { v with port := some x },
     .ofValue "ceiling" ceilingNumber ceiling fun x v => { v with ceiling := some x },
     .settingsPath]
  places :=
    [.ofValue "timeout_secs" (longNumber 0) timeoutSecs fun x v =>
      { v with timeoutSecs := some x }]
  commands := []
  hasVersion := false

/-- The request the words after the name of the command make, and the path they give. -/
def parse (words : List String) : Except Halt (Option String × ListenRequest) := do
  let r ← grammar.read ⟨none, {}⟩ words
  let r ← r.settle
  return (r.values.path, r.values.values)

end ListenRequest

namespace DispatchRequest

/-- What has been given of a request. -/
structure Parts where
  network : Option String := none
  hostIds : Option String := none
  options : DispatchOptions := {}

def grammar : Grammar (WithPath Parts) where
  options :=
    [.ofValue "port" portNumber (·.options.port) fun x v => { v with options.port := some x },
     .ofValue "concurrency" (longNumber 1) (·.options.concurrency) fun x v =>
      { v with options.concurrency := some x },
     .ofValue "connect-timeout-ms" (longNumber 0) (·.options.connectTimeoutMs) fun x v =>
      { v with options.connectTimeoutMs := some x },
     .settingsPath]
  places :=
    [.ofValue "network" .ok Parts.network fun x v => { v with network := some x },
     .ofValue "host_ids" .ok Parts.hostIds fun x v => { v with hostIds := some x }]
  commands := []
  hasVersion := false

/-- The request the words after the name of the command make, and the path they give. -/
def parse (words : List String) : Except Halt (Option String × DispatchRequest) := do
  let r ← grammar.read ⟨none, {}⟩ words
  let r ← r.settle
  match r.values.values with
  | ⟨some network, some hostIds, options⟩ => return (r.values.path, ⟨network, hostIds, options⟩)
  | _ => throw .missingArgument

end DispatchRequest

namespace Invocation

def listenName : String := "listen"
def dispatchName : String := "dispatch"
def helpName : String := "help"

def grammar : Grammar (WithPath Unit) where
  options := [.settingsPath]
  places := []
  commands := [listenName, dispatchName, helpName]
  hasVersion := true

/-- What a request for help comes to.  The commands have no commands of their own. -/
def helpOn : List String → Halt
  | [] => .help
  | [w] => if w ∈ grammar.commands then .help else .unknownCommand
  | _ => .unknownCommand

/-- The command of a name, asked for with the words after it, and the path they give. -/
def parseCommand (name : String) (words : List String) :
    Except Halt (Option String × Command) :=
  if name = listenName then (ListenRequest.parse words).map fun (p, r) => (p, .listen r)
  else if name = dispatchName then
    (DispatchRequest.parse words).map fun (p, r) => (p, .dispatch r)
  else .error (helpOn words)

def parse (words : List String) : Except Halt Invocation := do
  let top ← grammar.read ⟨none, ()⟩ words
  match top.command with
  | some (name, rest) =>
    let (path, command) ← parseCommand name rest
    let top ← top.settle
    return ⟨path.or top.values.path, command⟩
  | none =>
    let top ← top.settle
    throw (if top.values.path.isSome then .missingCommand else .nothingGiven)

end Invocation

/-! ## What is said instead of a command -/

def usage : List String :=
  ["Usage: startgate [--settings PATH] listen [TIMEOUT_SECS] [--host HOST] [--port PORT]",
   "                 [--ceiling COUNT]",
   "       startgate [--settings PATH] dispatch NETWORK_PREFIX HOST_IDS [--port PORT]",
   "                 [--concurrency COUNT] [--connect-timeout-ms MILLISECONDS]"]

/-- What is said when a command line leads to no command. -/
def Halt.lines : Halt → List String
  | .help | .nothingGiven => usage
  | .version => ["startgate 0.1.0"]
  | .missingCommand => "error: a command is required" :: usage
  | .unknownCommand => "error: unknown command" :: usage
  | .missingArgument => "error: a required argument is missing" :: usage
  | .unknownArgument => "error: unexpected argument" :: usage
  | .repeatedOption => "error: an option is given more than once" :: usage
  | .missingValue => "error: an option needs a value" :: usage
  | .malformedValue => "error: invalid value" :: usage
  | .unwantedValue => "error: an option takes no value" :: usage

end StartSignal.CommandLine
