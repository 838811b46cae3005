/-
# StartSignal.Dispatch.Delivery -- one start signal to one worker

A delivery resolves the host, preferring an IPv4 address, connects, sends the start
token, and is done: that the worker reads it is not waited for.  Silence lasts until
the configured timeout; without one, until the operating system gives up.

An attempt (`Attempt`) is the result of a delivery together with the connection it
made, if any, and the bytes that went over it.
-/
import StartSignal.Dispatch.Error
import StartSignal.Message
import StartSignal.Net.Network
import StartSignal.Settings.Basic

namespace StartSignal.Dispatch

structure Config where
  /-- The port the workers listen on. -/
  port : UInt16
  /-- The most attempts at one time. -/
  maxConcurrency : UInt64
  /-- How long an attempt may take to connect; `none` to leave it to the system. -/
  connectTimeout : Option Duration
deriving DecidableEq, Repr

/-- The dispatch of a program that has been told nothing, on a host that suggests a
concurrency. -/
def Config.standard (hostConcurrency : UInt64) : Config :=
  ⟨startPort, hostConcurrency, some (.ofSeconds 10)⟩

/-- A delivery that has ended. -/
structure Attempt where
  /-- The socket address reached, or why none was. -/
  result : Except Error SocketAddress
  /-- The address connected to and the bytes written, if a connection was made. -/
  transmission : Option (IpAddress × List UInt8)

/-- The failure of a connection that the system has given up. -/
def systemTimeout : IoError := .ofSystem "Connection timed out" 110

/-- The address to use out of several: the first of IPv4, else the first. -/
def preferred? (found : List SocketAddress) : Option SocketAddress :=
  (found.find? fun a => match a.ip with | .v4 _ => true | .v6 _ => false).or found.head?

def target (n : Network) (host : String) (port : UInt16) : Except Error SocketAddress :=
  match n.resolve host port with
  | .error e => .error (.resolve host e)
  | .ok found =>
    match preferred? found with
    | none => .error (.unresolvable host)
    | some a => .ok a

def deliver (n : Network) (config : Config) (address : WorkerAddress) : Attempt :=
  let host := address.host
  match target n host config.port with
  | .error e => ⟨.error e, none⟩
  | .ok target =>
    match n.answer target with
    | .failed e => ⟨.error (.connect host e), none⟩
    | .silent =>
      match config.connectTimeout with
      | some timeout => ⟨.error (.connectTimeout host timeout), none⟩
      | none => ⟨.error (.connect host systemTimeout), none⟩
    | .established sink =>
      match sink.send Message.start.text with
      | (.ok (), sink) => ⟨.ok target, some (target.ip.reached, sink.written)⟩
      | (.error e, sink) =>
        ⟨.error (.send host e), some (target.ip.reached, sink.written)⟩

end StartSignal.Dispatch
