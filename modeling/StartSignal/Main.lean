/-
# StartSignal.Main -- the program on its host

The only part that touches the host.  It reads the command line, the environment and
the settings file, opens sockets, waits for signals, and writes the log; what each of
these means is decided by the modules it hands them to.  A listener goes through the
steps of a `Listener.Session`, and an attempt to deliver is a `Dispatch.deliver` on
the network that was found.
-/
import StartSignal.CommandLine.Command
import StartSignal.Program.Run
import Std.Async.DNS
import Std.Async.Signal
import Std.Async.System
import Std.Async.TCP
import Std.Async.Timer
import Std.Time

namespace StartSignal.Main

open Std.Async (AsyncTask)
open Std.Async.TCP.Socket (Client Server)

/-! ## The log -/

/-- The time of the day, to the microsecond. -/
def timestamp : IO String := do
  let now := Std.Time.DateTime.ofTimestampWithZone (← Std.Time.Timestamp.now) .UTC
  return now.format "uuuu-MM-dd'T'HH:mm:ss.SSSSSS'Z'"

def say (log : Log.Setup) (records : List Log.Record) : IO Unit := do
  let out ← IO.getStdout
  for line in log.lines records do
    out.putStr (line.stamped (← timestamp) ++ "\n")
    out.flush

/-! ## Failures and addresses of the host -/

/-- The number and the text of a failure.  Some numbers are reported negated. -/
def codeAndReason : IO.Error → Option (UInt32 × String)
  | .alreadyExists _ code reason | .otherError code reason | .resourceBusy code reason
  | .resourceVanished code reason | .unsupportedOperation code reason
  | .hardwareFault code reason | .unsatisfiedConstraints code reason
  | .illegalOperation code reason | .protocolError code reason | .timeExpired code reason
  | .interrupted _ code reason | .noFileOrDirectory _ code reason
  | .invalidArgument _ code reason | .permissionDenied _ code reason
  | .resourceExhausted _ code reason | .inappropriateType _ code reason
  | .noSuchThing _ code reason => some (min code (-code), reason)
  | .unexpectedEof | .userError _ => none

def failure (e : IO.Error) : IoError :=
  match codeAndReason e with
  | some (code, reason) => .ofSystem reason.capitalize code.toNat
  | none => ⟨.other, some (toString e)⟩

/-- An address as the host takes it. -/
def hostAddress (a : SocketAddress) : Std.Net.SocketAddress :=
  match a.ip with
  | .v4 ⟨x, y, z, w⟩ => .v4 ⟨.ofParts x y z w, a.port⟩
  | .v6 ⟨groups⟩ => .v6 ⟨⟨groups⟩, a.port⟩

def ipAddress : Std.Net.IPAddr → IpAddress
  | .v4 ⟨octets⟩ => .v4 ⟨octets[0], octets[1], octets[2], octets[3]⟩
  | .v6 ⟨segments⟩ => .v6 ⟨segments⟩

def socketAddress : Std.Net.SocketAddress → SocketAddress
  | .v4 ⟨ip, port⟩ => { ip := ipAddress (.v4 ip), port }
  | .v6 ⟨ip, port⟩ => { ip := ipAddress (.v6 ip), port }

/-! ## Listening -/

/-- The signals that ask the program to end, waited for since the program began.  The
watches are kept, so that a signal that comes again does no more harm. -/
structure Signals where
  watches : List Std.Async.Signal.Waiter
  terminate : AsyncTask Int
  interrupt : AsyncTask Int

/-- Wait for signals from now on. -/
def Signals.watch : IO Signals := do
  let terminate ← Std.Async.Signal.Waiter.mk .sigterm true
  let interrupt ← Std.Async.Signal.Waiter.mk .sigint true
  return ⟨[terminate, interrupt], ← terminate.wait, ← interrupt.wait⟩

/-- The first of a signal and of whatever else is waited for.  Where both are at hand it is
the signal. -/
def Signals.first {α : Type} (s : Signals) (others : List (AsyncTask α)) :
    IO (Except IO.Error (Program.Signal ⊕ α)) :=
  IO.waitAny
    ((s.terminate.map fun _ => Sum.inl Program.Signal.terminate).run ::
      (s.interrupt.map fun _ => Sum.inl Program.Signal.interrupt).run ::
      others.map fun t => (t.map Sum.inr).run)
    (by simp)

def bind (address : SocketAddress) : IO (Option Server × Listener.Binding) := do
  match ← Server.mk.toBaseIO with
  | .error e => return (none, .setupFailed (failure e))
  | .ok server =>
    let opening := do
      server.bind (hostAddress address)
      server.listen 1
    match ← opening.toBaseIO with
    | .error e => return (none, .refused (failure e))
    | .ok () =>
      match ← server.getSockName.toBaseIO with
      | .error e => return (none, .setupFailed (failure e))
      | .ok here => return (some server, .listening (socketAddress here))

/-- Log what a session has logged since. -/
def catchUp (log : Log.Setup) (before after : Listener.Session) : IO Listener.Session := do
  say log (after.log.drop before.log.length)
  return after

/-- How the next wait on a connection ends, and the signal that ended it. -/
def nextRead (signals : Signals) (client : Client) :
    IO (Listener.Read × Option Program.Signal) := do
  let reading ← (client.recv? Wire.maxMessageBytes.toUInt64).toIO
  match ← signals.first [reading] with
  | .ok (.inl s) => return (.cancelled, some s)
  | .ok (.inr (some bytes)) => return (.received (.ofBytes bytes.toList), none)
  | .ok (.inr none) => return (.received .closed, none)
  | .error e => return (.received (.failed ⟨failure e⟩), none)

/-- Let a session read on.  A session bears no more messages than its ceiling, so `fuel`
beyond that is enough. -/
def follow (log : Log.Setup) (signals : Signals) (client : Client) :
    Nat → Listener.Session → IO Listener.Session
  | 0, s => return s
  | fuel + 1, s => do
    if s.ending.isSome then return s
    let (read, signal) ← nextRead signals client
    let noted := signal.elim s fun x => s.note (Program.signalRecord x)
    follow log signals client fuel (← catchUp log s (noted.follow [read]))

/-- The longest wait a timer can hold, in milliseconds. -/
def longestWait : Nat := 4611686018427387904

/-- How the wait for a controller ends, with the connection or the signal that ended it. -/
def nextWait (signals : Signals) (server : Server) (timeout : Duration) :
    IO (Listener.Wait × Option Client × Option Program.Signal) := do
  let millis := min (timeout.nanos / Duration.nanosPerMilli) longestWait
  let sleeping ← (Std.Async.sleep (.ofNat millis)).toIO
  let accepting ← server.accept.toIO
  match ← signals.first [accepting.map some, sleeping.map fun _ => none] with
  | .ok (.inl s) => return (.cancelled, none, some s)
  | .ok (.inr none) => return (.elapsed, none, none)
  | .error e => return (.failed (failure e), none, none)
  | .ok (.inr (some client)) =>
    match ← client.getPeerName.toBaseIO with
    | .ok peer => return (.connected (socketAddress peer), some client, none)
    | .error e => return (.failed (failure e), none, none)

def runSession (log : Log.Setup) (signals : Signals) (server : Server) (s : Listener.Session) :
    IO Listener.Session := do
  let (wait, client, signal) ← nextWait signals server s.config.idleTimeout
  let noted := signal.elim s fun x => s.note (Program.signalRecord x)
  let t ← catchUp log s (noted.await wait)
  match client with
  | none => return t
  | some client => follow log signals client (s.config.ceiling.toNat + 1) t

def listen (log : Log.Setup) (config : Listener.Config) : IO UInt8 := do
  let signals ← Signals.watch
  let (server, binding) ← bind config.address
  match Listener.Session.bind config binding, server with
  | .ok s, some server =>
    say log s.log
    let s ← runSession log signals server s
    match s.ending with
    | none => return Program.failureExitCode
    | some ending =>
      let (record, code) := Program.listenerEnd ending
      say log [record]
      return code
  | .error e, _ =>
    say log [Program.unstartedRecord e]
    return e.exitCode
  | .ok _, none => return Program.failureExitCode

/-! ## Dispatching -/

/-- The addresses of a name.  Nobody is asked about an address or a name with a NUL. -/
def lookup (host : String) (port : UInt16) : IO (Except IoError (List IpAddress)) := do
  if (HostName.address? host port).isSome ∨ '\x00' ∈ host.toList then
    return Network.lookupNothing host
  match ← (Std.Async.DNS.getAddrInfo host (Text.natText port.toNat)).block.toBaseIO with
  | .ok found => return .ok (found.toList.map ipAddress)
  | .error e =>
    let reason := ((codeAndReason e).map (·.2)).getD (toString e)
    return .error ⟨.other, some ("failed to lookup address information: " ++ reason)⟩

/-- Write the start signal to a connection and close it. -/
def signalStart (client : Client) : IO Unit := do
  (client.send Message.start.text.toUTF8).block
  client.shutdown.block

/-- What comes of connecting to an address and writing the start signal. -/
def answer (config : Dispatch.Config) (target : SocketAddress) : IO Answer := do
  let client ← Client.mk
  let connecting ← (client.connect (hostAddress target)).toIO
  let waiting ← config.connectTimeout.toList.mapM fun timeout => do
    let sleeping ← (Std.Async.sleep (.ofNat (timeout.nanos / Duration.nanosPerMilli))).toIO
    return (sleeping.map fun _ => false).run
  match ← IO.waitAny ((connecting.map fun _ => true).run :: waiting) (by simp) with
  | .error e => return .failed (failure e)
  | .ok false => return .silent
  | .ok true =>
    match ← (signalStart client).toBaseIO with
    | .ok () => return .established .unlimited
    | .error e => return .established (.ofScript [.failure (failure e)] none)

def attempt (config : Dispatch.Config) (address : WorkerAddress) : IO Dispatch.Attempt := do
  let found ← lookup address.host config.port
  let answer ← match Dispatch.target ⟨fun _ => .silent, fun _ => found⟩ address.host config.port with
    | .error _ => pure .silent
    | .ok target =>
      match ← (answer config target).toBaseIO with
      | .ok a => pure a
      | .error e => pure (.failed (failure e))
  return Dispatch.deliver ⟨fun _ => answer, fun _ => found⟩ config address

/-- Attempt deliveries one after the other, taking the next from the queue each time, and
at most `fuel` of them. -/
def lane (log : Log.Setup) (config : Dispatch.Config) (queue : IO.Ref (List (Nat × WorkerAddress))) :
    Nat → IO (List (Nat × Dispatch.Attempt))
  | 0 => return []
  | fuel + 1 => do
    match ← queue.modifyGet fun q => (q.head?, q.tail) with
    | none => return []
    | some (place, address) =>
      let a ← attempt config address
      say log [Dispatch.attemptRecord address a.result]
      return (place, a) :: (← lane log config queue fuel)

/-- Attempt every delivery, at most as many at one time as the configuration allows. -/
def attemptAll (log : Log.Setup) (config : Dispatch.Config) (addresses : List WorkerAddress) :
    IO (List Dispatch.Attempt) := do
  let queue ← IO.mkRef ((List.range addresses.length).zip addresses)
  let lanes := min config.concurrency addresses.length
  let tasks ← (List.range lanes).mapM fun _ =>
    IO.asTask (lane log config queue addresses.length) .dedicated
  let ended ← tasks.mapM fun t => IO.ofExcept t.get
  return (ended.flatten.mergeSort fun a b => a.1 ≤ b.1).map (·.2)

def dispatch (log : Log.Setup) (config : Dispatch.Config)
    (request : CommandLine.DispatchRequest) : IO UInt8 := do
  let addresses := WorkerAddress.forHosts request.network (hostIds request.hostIds)
  if addresses.isEmpty then
    say log [Program.nobodyRecord request.hostIds]
    return Program.dispatchFailedExitCode
  say log [Dispatch.openingRecord config addresses.length]
  if Dispatch.maxPermits < config.concurrency then return Program.crashExitCode
  let attempts ← attemptAll log config addresses
  let report : Dispatch.Report := ⟨Dispatch.outcomes addresses attempts⟩
  let (records, code) := Program.dispatchEnd report
  say log (Dispatch.closingRecord report :: records)
  return code

/-! ## The program -/

/-- The variables of the environment that are looked at. -/
def environment : IO Lookup := do
  let values ← Program.variableNames.mapM fun name => return (name, ← IO.getEnv name)
  return fun name => (values.lookup name).join

/-- The numbers of the failures that say that a path leads nowhere: a name is not there, is
not that of a directory or is too long, or links lead in a circle. -/
def nowhereCodes : List UInt32 := [2, 20, 36, 40]

def settingsFile (path : Path) : IO FileState := do
  match ← (IO.FS.readBinFile path.render).toBaseIO with
  | .ok bytes => return .content bytes.toList
  | .error e =>
    let leadsNowhere := (codeAndReason e).any fun (code, _) => code ∈ nowhereCodes
    return if leadsNowhere then .absent else .unreadable (failure e)

def conduct (r : Program.Ready) : IO UInt8 := do
  match r.command with
  | .listen request =>
    match request.config r.settings.listener with
    | .error e =>
      say r.log [Program.invalidHostRecord e]
      return Program.failureExitCode
    | .ok config => listen r.log config
  | .dispatch request =>
    let processors := (← Std.Async.System.getCPUInfo).size
    dispatch r.log (request.config r.settings.dispatch (max 1 processors).toUInt64) request

def run (words : List String) : IO UInt8 := do
  match CommandLine.Invocation.parse words with
  | .error halt =>
    for line in halt.lines do
      if halt.exitCode = 0 then IO.println line else IO.eprintln line
    return halt.exitCode
  | .ok invocation =>
    let lookup ← environment
    let home := (← IO.getEnv Program.homeVariable).map Path.ofText
    let file ← settingsFile (Program.settingsPath invocation home)
    match Program.prepare invocation home (fun _ => file) lookup with
    | .error e =>
      for line in e.lines do
        IO.eprintln line
      return e.exitCode
    | .ok r =>
      for complaint in r.complaints do
        IO.eprintln complaint
      say r.log r.opening
      conduct r

end StartSignal.Main

/-- Run the program and end with its exit status. -/
def main (words : List String) : IO UInt32 := do
  return (← StartSignal.Main.run words).toUInt32
