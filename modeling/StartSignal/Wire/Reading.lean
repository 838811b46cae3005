/-
# StartSignal.Wire.Reading -- one message per read

Messages are not framed: whatever one read returns, at most 1024 bytes, is one
message.  Bytes that are not text are replaced, never refused, and a read of no
bytes means that the peer has closed its side.

A stream is a script of what becomes available, step by step (`Arrival`).  A read
takes from the first step alone, so a chunk longer than a message is received in
slices and two chunks never join.

A connection fails with the failure of the socket beneath it (`WireError`).  Logs tell apart
the ways a peer can go away; everything else is one kind.
-/
import StartSignal.Net.IoError
import StartSignal.Text.Utf8

namespace StartSignal.Wire

structure WireError where
  /-- The failure of the socket. -/
  source : IoError
deriving DecidableEq, Repr

namespace WireError

def message (e : WireError) : String := "socket I/O failed: " ++ e.source.message

def kind (e : WireError) : String :=
  match e.source.kind with
  | .brokenPipe => "broken_pipe"
  | .connectionReset => "connection_reset"
  | .connectionAborted => "connection_aborted"
  | .unexpectedEof => "unexpected_eof"
  | _ => "io"

end WireError

def maxMessageBytes : Nat := 1024

/-- What becomes available on a stream. -/
inductive Arrival where
  /-- Bytes that arrive together. -/
  | chunk (bytes : List UInt8)
  /-- One read of no bytes. -/
  | endOfStream
  /-- One failing read. -/
  | failure (e : IoError)
deriving DecidableEq, Repr

inductive Reception where
  /-- A message. -/
  | text (s : String)
  /-- The peer has closed its side. -/
  | closed
  /-- The read failed. -/
  | failed (e : WireError)
deriving DecidableEq, Repr

def Reception.ofBytes (bytes : List UInt8) : Reception :=
  if bytes.isEmpty then .closed else .text (Text.Utf8.text bytes)

/-- One read: what it ends with, and the stream after it. -/
def receive : List Arrival → Reception × List Arrival
  | [] => (.closed, [])
  | .endOfStream :: rest => (.closed, rest)
  | .failure e :: rest => (.failed ⟨e⟩, rest)
  | .chunk bytes :: rest =>
    (.ofBytes (bytes.take maxMessageBytes),
      if bytes.length ≤ maxMessageBytes then rest
      else .chunk (bytes.drop maxMessageBytes) :: rest)

def receiveMany : Nat → List Arrival → List Reception
  | 0, _ => []
  | n + 1, stream =>
    let (r, rest) := receive stream
    r :: receiveMany n rest

/-- The successive slices of at most 1024 bytes. -/
def slices (bytes : List UInt8) : List (List UInt8) :=
  if bytes.isEmpty then []
  else bytes.take maxMessageBytes :: slices (bytes.drop maxMessageBytes)
termination_by bytes.length
decreasing_by
  rename_i nonempty
  have : 0 < bytes.length := by
    cases bytes with
    | nil => simp at nonempty
    | cons => simp
  simp only [List.length_drop, maxMessageBytes]
  omega

end StartSignal.Wire
