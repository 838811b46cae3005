/-
# StartSignal.Listener.Session -- one session of a listener

A session binds a socket, waits for a controller, and then reads one message after
the other until the state machine ends.  What its surroundings do is given as data:
how binding goes (`Binding`), how the wait for a controller ends (`Wait`), and how
each wait on the connection ends (`Read`).  A cancellation is one of the ways any of
these waits ends; where a cancellation and something else are both at hand, it is the
cancellation that ends the wait.

Every event goes through `State.next` (`Session.apply`) and is logged with the state
before and after it.  The session holds its sockets until it is over, whatever ends
it.  After its end nothing changes a session.

A listener fails when it cannot get its address, when accepting a connection fails, when the
socket cannot be set up, or when an event comes that its state does not take (`Error`).  The
first has an exit status of its own.
-/
import StartSignal.Duration
import StartSignal.Listener.State
import StartSignal.Log.Record
import StartSignal.Net.Address
import StartSignal.Settings.Basic
import StartSignal.Wire.Reading

namespace StartSignal.Listener

open Log

inductive Error where
  /-- The address cannot be had. -/
  | bind (address : SocketAddress) (source : IoError)
  /-- Accepting a connection failed. -/
  | accept (source : IoError)
  /-- The socket cannot be set up. -/
  | socket (source : IoError)
  /-- An event came that the state does not take. -/
  | invalidTransition (t : InvalidTransition)
deriving DecidableEq, Repr

def InvalidTransition.message (t : InvalidTransition) : String :=
  "invalid transition: " ++ t.event ++ " while " ++ t.state

namespace Error

def message : Error → String
  | .bind address source => "failed to bind " ++ address.render ++ ": " ++ source.message
  | .accept source => "accept failed: " ++ source.message
  | .socket source => "socket setup failed: " ++ source.message
  | .invalidTransition t => t.message

def exitCode : Error → UInt8
  | .bind .. => bindErrorExitCode
  | _ => 1

end Error

structure Config where
  /-- The address to bind. -/
  address : SocketAddress
  /-- How long to wait for a controller. -/
  idleTimeout : Duration
  /-- How many messages of noise to bear. -/
  ceiling : UInt32
deriving DecidableEq, Repr

/-- The listener of a program that has been told nothing. -/
def Config.standard : Config :=
  ⟨{ ip := .v4 ⟨0, 0, 0, 0⟩, port := startPort }, .ofSeconds 60, defaultCeiling⟩

/-- How binding a socket and listening on it goes. -/
inductive Binding where
  /-- The socket listens, at an address that may name a port the host chose. -/
  | listening (address : SocketAddress)
  /-- The address cannot be had, or cannot be listened on. -/
  | refused (e : IoError)
  /-- The socket cannot be set up. -/
  | setupFailed (e : IoError)
deriving DecidableEq, Repr

inductive Wait where
  | cancelled
  /-- The idle timeout passes. -/
  | elapsed
  /-- Accepting a connection fails. -/
  | failed (e : IoError)
  | connected (peer : SocketAddress)
deriving DecidableEq, Repr

inductive Read where
  | cancelled
  | received (r : Wire.Reception)
deriving DecidableEq, Repr

inductive Socket where
  | listening
  | connection
deriving DecidableEq, Repr

structure Session where
  config : Config
  /-- The address it listens at. -/
  address : SocketAddress
  /-- The peer, once there is one. -/
  peer : Option SocketAddress
  state : State
  /-- The events that have been applied since the session listens. -/
  events : List Event
  /-- The number of messages received. -/
  ordinal : UInt32
  /-- The sockets that are open. -/
  sockets : List Socket
  /-- What has been logged. -/
  log : List Record
  /-- How the session has ended, if it has. -/
  ending : Option (Except Error Outcome)

namespace Session

/-- A session that can begin: the socket listens. -/
def listening (config : Config) (address : SocketAddress) (state : State) : Session where
  config := config
  address := address
  peer := none
  state := state
  events := []
  ordinal := 0
  sockets := [.listening]
  log := [Source.session.record .info "listening for start signal"
    [("addr", .shown address.render), ("port", .number address.port.toNat),
     ("idle_timeout_secs", .number config.idleTimeout.seconds)]]
  ending := none

def bind (config : Config) : Binding → Except Error Session
  | .setupFailed e => .error (.socket e)
  | .refused e => .error (.bind config.address e)
  | .listening address => do
    let invalid := Except.mapError Error.invalidTransition
    let state ← invalid (State.idle.next .bound config.ceiling)
    let state ← invalid (state.next .listening config.ceiling)
    return listening config address state

def note (s : Session) (r : Record) : Session := { s with log := s.log ++ [r] }

/-- The session is over, and its sockets are closed. -/
def endWith (s : Session) (ending : Except Error Outcome) : Session :=
  { s with sockets := [], ending := some ending }

def peerField (s : Session) : List (String × FieldValue) :=
  s.peer.toList.map fun a => ("peer", .shown a.render)

def apply (s : Session) (e : Event) : Session :=
  match s.state.next e s.config.ceiling with
  | .error t => s.endWith (.error (.invalidTransition t))
  | .ok state =>
    { s.note (Source.session.record .debug "listener transition"
        [("from", .shown s.state.render), ("to", .shown state.render)]) with
      state, events := s.events ++ [e] }

/-- Close the listening socket and report the outcome. -/
def close (s : Session) : Session :=
  if s.ending.isSome then s
  else match s.state.outcome? with
    | none => s.endWith (.error (.invalidTransition ⟨s.state.name, "close"⟩))
    | some outcome =>
      (s.note (Source.session.record .info "listener socket closed"
        [("state", .shown s.state.render), ("addr", .shown s.address.render)])).endWith
        (.ok outcome)

def receive (s : Session) (text : String) : Session :=
  let ordinal := s.ordinal + 1
  ({ s with ordinal }.note (Source.session.record .info "received message"
    [("ordinal", .number ordinal.toNat), ("message", .shown text)])).apply
    (.message (.decode text))

def observe (s : Session) : Read → Session
  | .cancelled =>
    (s.note (Source.session.record .info "termination requested, closing sockets"
      (("state", .shown s.state.render) :: s.peerField))).apply .terminationRequested
  | .received (.text t) => s.receive t
  | .received .closed =>
    (s.note (Source.session.record .info "peer closed connection" s.peerField)).apply .peerClosed
  | .received (.failed e) =>
    (s.note (Source.session.record .warn "read failed"
      (s.peerField ++ [("error", .shown e.message), ("error_kind", .quoted e.kind)]))).apply
      .readFailed

/-- Go on reading while the waits on the connection end as given.  A session that has
reached a terminal state closes, and reads no more. -/
def follow (s : Session) : List Read → Session
  | [] => if s.state.isTerminal then s.close else s
  | r :: reads =>
    if s.ending.isSome then s
    else if s.state.isTerminal then s.close
    else follow (s.observe r) reads

def connect (s : Session) (peer : SocketAddress) : Session :=
  let s := { s with peer := some peer, sockets := s.sockets ++ [Socket.connection] }
  let s := s.apply .accepted
  if s.ending.isSome then s
  else s.note (Source.session.record .info "controller connected" s.peerField)

def await (s : Session) : Wait → Session
  | .cancelled =>
    ((s.note (Source.session.record .info "termination requested, closing socket"
      [("state", .shown s.state.render)])).apply .terminationRequested).close
  | .elapsed =>
    ((s.note (Source.session.record .info
      "no connection before idle timeout, starting without signal"
      [("idle_timeout_secs", .number s.config.idleTimeout.seconds)])).apply
      .acceptTimedOut).close
  | .failed e =>
    (s.note (Source.session.record .warn "accept failed, closing socket"
      [("error", .shown e.message), ("addr", .shown s.address.render)])).endWith
      (.error (.accept e))
  | .connected peer => s.connect peer

/-- Run a session in surroundings that do as given.  It has not ended when the waits on
the connection are used up before. -/
def run (s : Session) (wait : Wait) (reads : List Read) : Session :=
  (s.await wait).follow reads

end Session

end StartSignal.Listener
