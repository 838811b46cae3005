/-
# StartSignal.Wire.Writing -- sending a message

A message is sent by writing all its bytes and then flushing.  A write may take
fewer bytes than it is offered; the rest is offered again.  A write that takes no
byte of a non-empty rest fails, and after a failed write nothing is flushed.  An
empty message writes nothing and is flushed all the same.

A sink is a script of what its write calls do (`WriteReply`); after the script
every byte is taken.
-/
import StartSignal.Text.Utf8
import StartSignal.Wire.Reading

namespace StartSignal.Wire

inductive WriteReply where
  /-- Take at most `n` bytes. -/
  | accept (n : Nat)
  /-- Fail. -/
  | failure (e : IoError)
deriving DecidableEq, Repr

/-- A place to write to, and what has happened to it. -/
structure Sink where
  /-- What the next write calls do. -/
  script : List WriteReply
  /-- The failure of the first flush, if it fails. -/
  flushFailure : Option IoError
  /-- The bytes taken so far. -/
  written : List UInt8
  /-- The number of write calls so far. -/
  writes : Nat
  /-- The number of flushes so far. -/
  flushes : Nat
deriving DecidableEq, Repr

/-- What came of offering some bytes until all are taken or a write fails. -/
structure Pouring where
  /-- The bytes taken. -/
  taken : List UInt8
  /-- The number of write calls. -/
  calls : Nat
  /-- The script left over. -/
  left : List WriteReply
  /-- The failure that stopped it, if one did. -/
  failure : Option IoError
deriving DecidableEq, Repr

/-- Offer bytes to write calls that follow a script. -/
def pour : List WriteReply → List UInt8 → Pouring
  | script, [] => ⟨[], 0, script, none⟩
  | [], bytes => ⟨bytes, 1, [], none⟩
  | .failure e :: script, _ => ⟨[], 1, script, some e⟩
  | .accept 0 :: script, _ => ⟨[], 1, script, some ⟨.writeZero, none⟩⟩
  | .accept (n + 1) :: script, bytes =>
    let rest := pour script (bytes.drop (n + 1))
    { rest with taken := bytes.take (n + 1) ++ rest.taken, calls := rest.calls + 1 }

namespace Sink

def ofScript (script : List WriteReply) (flushFailure : Option IoError) : Sink :=
  ⟨script, flushFailure, [], 0, 0⟩

def unlimited : Sink := ofScript [] none

def flush (s : Sink) : Except WireError Unit × Sink :=
  let after := { s with flushes := s.flushes + 1, flushFailure := none }
  match s.flushFailure with
  | some e => (.error ⟨e⟩, after)
  | none => (.ok (), after)

/-- Write all bytes, then flush. -/
def sendBytes (s : Sink) (bytes : List UInt8) : Except WireError Unit × Sink :=
  let p := pour s.script bytes
  let after :=
    { s with script := p.left, written := s.written ++ p.taken, writes := s.writes + p.calls }
  match p.failure with
  | some e => (.error ⟨e⟩, after)
  | none => after.flush

def send (s : Sink) (text : String) : Except WireError Unit × Sink :=
  s.sendBytes (Text.Utf8.bytes text)

/-- Send texts in turn, whatever comes of each. -/
def sendMany : Sink → List String → List (Except WireError Unit) × Sink
  | s, [] => ([], s)
  | s, t :: ts =>
    let (r, s) := s.send t
    let (rs, s) := s.sendMany ts
    (r :: rs, s)

end Sink

end StartSignal.Wire
