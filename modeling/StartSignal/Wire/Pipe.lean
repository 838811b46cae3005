/-
# StartSignal.Wire.Pipe -- an in-memory connection of two ends

Each end writes into a bounded buffer that the other end reads in order.  A buffer
without room for a byte would never pass anything on, so no pipe is opened with one.
A write that does not fit stays unfinished: the part that fits is kept and the rest is
dropped.  A non-empty write to an end that is gone fails and adds nothing.  What
was written before an end went away can still be read; after that the connection
reads as closed.
-/
import StartSignal.Wire.Reading

namespace StartSignal.Wire

inductive End where
  | a
  | b
deriving DecidableEq, Repr

def End.other : End → End
  | .a => .b
  | .b => .a

structure Side where
  /-- The bytes written here and not yet read across. -/
  outgoing : List UInt8
  /-- Whether the end still exists. -/
  present : Bool
deriving DecidableEq, Repr

structure Pipe where
  /-- The most bytes each direction holds. -/
  capacity : Nat
  a : Side
  b : Side
deriving DecidableEq, Repr

inductive Action where
  /-- Write some bytes. -/
  | write (bytes : List UInt8)
  /-- Receive a message. -/
  | receive
  /-- Give the end up. -/
  | drop
deriving DecidableEq, Repr

inductive Result where
  /-- Everything was written. -/
  | sent
  /-- A receive ended. -/
  | received (r : Reception)
  /-- A write failed. -/
  | failed (e : WireError)
  /-- The action cannot finish now. -/
  | pending
  /-- The end is gone. -/
  | dropped
deriving DecidableEq, Repr

namespace Pipe

def empty (capacity : Nat) : Pipe := ⟨capacity, ⟨[], true⟩, ⟨[], true⟩⟩

/-- Open a pipe, if it has room for a byte. -/
def open? (capacity : Nat) : Option Pipe :=
  if capacity = 0 then none else some (empty capacity)

def side (p : Pipe) : End → Side
  | .a => p.a
  | .b => p.b

def setSide (p : Pipe) (e : End) (s : Side) : Pipe :=
  match e with
  | .a => { p with a := s }
  | .b => { p with b := s }

def write (p : Pipe) (e : End) (bytes : List UInt8) : Result × Pipe :=
  if bytes.isEmpty then (.sent, p)
  else if !(p.side e.other).present then (.failed ⟨⟨.brokenPipe, none⟩⟩, p)
  else
    let here := p.side e
    let fitting := bytes.take (p.capacity - here.outgoing.length)
    (if fitting.length = bytes.length then .sent else .pending,
      p.setSide e { here with outgoing := here.outgoing ++ fitting })

def receive (p : Pipe) (e : End) : Result × Pipe :=
  let across := p.side e.other
  if across.outgoing.isEmpty then
    (if across.present then .pending else .received .closed, p)
  else
    (.received (.ofBytes (across.outgoing.take maxMessageBytes)),
      p.setSide e.other { across with outgoing := across.outgoing.drop maxMessageBytes })

/-- Do something at an end; nothing but being gone can come of an end that is gone. -/
def step (p : Pipe) (e : End) (action : Action) : Result × Pipe :=
  if !(p.side e).present then (.dropped, p)
  else match action with
    | .write bytes => p.write e bytes
    | .receive => p.receive e
    | .drop => (.dropped, p.setSide e { p.side e with present := false })

def run : Pipe → List (End × Action) → List Result × Pipe
  | p, [] => ([], p)
  | p, (e, action) :: rest =>
    let (r, p) := p.step e action
    let (rs, p) := p.run rest
    (r :: rs, p)

end Pipe

end StartSignal.Wire
