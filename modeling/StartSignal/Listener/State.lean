/-
# StartSignal.Listener.State -- the states of a listener

    idle --bound--> bound --listening--> awaitingConnection --accepted--> reading 0
                                                |                            |
                                         acceptTimedOut              start, peer gone,
                                                v                 read failed, too much noise
                                             timedOut                        v
                                                                     released reason

A termination request ends every state that is not terminal.  A listener that reads
counts the messages of noise: the one that brings the count to the ceiling releases
it, and every other keeps it reading.  A terminal state takes no event.

`State.next` is the whole machine; it does no input or output.
-/
import StartSignal.Message
import StartSignal.Text.Numeral

namespace StartSignal.Listener

/-- Why a connected listener let its caller go. -/
inductive ReleaseReason where
  /-- The start signal came. -/
  | startReceived
  /-- Too much noise came. -/
  | ceilingReached
  /-- The peer closed the connection. -/
  | peerClosed
  /-- The connection failed. -/
  | readFailed
deriving DecidableEq, Repr

inductive State where
  /-- There is a socket. -/
  | idle
  /-- The socket has its address. -/
  | bound
  /-- The socket listens. -/
  | awaitingConnection
  /-- A peer is connected and has sent `noise` messages of noise. -/
  | reading (noise : UInt32)
  /-- The caller may go on. -/
  | released (reason : ReleaseReason)
  /-- Nobody connected in time, and the caller may go on. -/
  | timedOut
  /-- A termination was requested. -/
  | terminated
deriving DecidableEq, Repr

inductive Event where
  | bound
  | listening
  | accepted
  | acceptTimedOut
  | message (m : Message)
  | peerClosed
  | readFailed
  | terminationRequested
deriving DecidableEq, Repr

inductive Outcome where
  | released (reason : ReleaseReason)
  | timedOut
  | terminated
deriving DecidableEq, Repr

/-- The exit status of a listener that was terminated: 128 and the number of the signal. -/
def terminatedExitCode : UInt8 := 143

/-- The exit status of a listener that could not get its address. -/
def bindErrorExitCode : UInt8 := 3

structure InvalidTransition where
  state : String
  event : String
deriving DecidableEq, Repr

def ReleaseReason.name : ReleaseReason → String
  | .startReceived => "start_received"
  | .ceilingReached => "ceiling_reached"
  | .peerClosed => "peer_closed"
  | .readFailed => "read_failed"

def Event.name : Event → String
  | .bound => "bound"
  | .listening => "listening"
  | .accepted => "accepted"
  | .acceptTimedOut => "accept_timed_out"
  | .message _ => "message"
  | .peerClosed => "peer_closed"
  | .readFailed => "read_failed"
  | .terminationRequested => "termination_requested"

def Outcome.exitCode : Outcome → UInt8
  | .released _ | .timedOut => 0
  | .terminated => terminatedExitCode

namespace State

def name : State → String
  | .idle => "idle"
  | .bound => "bound"
  | .awaitingConnection => "awaiting_connection"
  | .reading _ => "connected_reading"
  | .released _ => "released"
  | .timedOut => "timed_out"
  | .terminated => "terminated"

/-- The name with the particulars of the state. -/
def render (s : State) : String :=
  match s with
  | .reading noise => s.name ++ "(" ++ Text.natText noise.toNat ++ ")"
  | .released reason => s.name ++ "(" ++ reason.name ++ ")"
  | _ => s.name

def outcome? : State → Option Outcome
  | .released reason => some (.released reason)
  | .timedOut => some .timedOut
  | .terminated => some .terminated
  | _ => none

/-- Whether the state takes no more events. -/
def isTerminal (s : State) : Bool := s.outcome?.isSome

/-- The state of a reading listener after a message. -/
def afterMessage (noise : UInt32) (m : Message) (ceiling : UInt32) : State :=
  if m.isStart then .released .startReceived
  else if ceiling ≤ noise + 1 then .released .ceilingReached
  else .reading (noise + 1)

/-- The state after an event, under a ceiling on noise. -/
def next (s : State) (e : Event) (ceiling : UInt32) : Except InvalidTransition State :=
  match s, e with
  | .idle, .terminationRequested | .bound, .terminationRequested
  | .awaitingConnection, .terminationRequested | .reading _, .terminationRequested =>
    .ok .terminated
  | .idle, .bound => .ok .bound
  | .bound, .listening => .ok .awaitingConnection
  | .awaitingConnection, .accepted => .ok (.reading 0)
  | .awaitingConnection, .acceptTimedOut => .ok .timedOut
  | .reading noise, .message m => .ok (afterMessage noise m ceiling)
  | .reading _, .peerClosed => .ok (.released .peerClosed)
  | .reading _, .readFailed => .ok (.released .readFailed)
  | s, e => .error ⟨s.name, e.name⟩

/-- The state after an event, unchanged when the event is not taken. -/
def after (s : State) (e : Event) (ceiling : UInt32) : State :=
  match s.next e ceiling with
  | .ok t => t
  | .error _ => s

/-- What each event in turn leads to, under a ceiling of its own.  An event that is not
taken leaves the state unchanged. -/
def walk : State → List (Event × UInt32) → List (Except InvalidTransition State)
  | _, [] => []
  | s, (e, ceiling) :: rest => s.next e ceiling :: walk (s.after e ceiling) rest

end State

end StartSignal.Listener
