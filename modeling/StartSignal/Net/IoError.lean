/-
# StartSignal.Net.IoError -- failures of files and sockets

A failure has a kind, by which the program tells failures apart, and a text.  A
failure reported by the operating system brings its own text; any other reads as
its kind does.
-/
import StartSignal.Text.Numeral

namespace StartSignal

inductive IoKind where
  | brokenPipe
  | connectionReset
  | connectionAborted
  | connectionRefused
  | unexpectedEof
  | timedOut
  | addrInUse
  | addrNotAvailable
  | permissionDenied
  | notFound
  | invalidInput
  | invalidData
  | writeZero
  | isADirectory
  | networkUnreachable
  | other
deriving DecidableEq, Repr

/-- The text of a failure that brings none. -/
def IoKind.message : IoKind → String
  | .brokenPipe => "broken pipe"
  | .connectionReset => "connection reset"
  | .connectionAborted => "connection aborted"
  | .connectionRefused => "connection refused"
  | .unexpectedEof => "unexpected end of file"
  | .timedOut => "timed out"
  | .addrInUse => "address in use"
  | .addrNotAvailable => "address not available"
  | .permissionDenied => "permission denied"
  | .notFound => "entity not found"
  | .invalidInput => "invalid input parameter"
  | .invalidData => "invalid data"
  | .writeZero => "write zero"
  | .isADirectory => "is a directory"
  | .networkUnreachable => "network unreachable"
  | .other => "other error"

/-- The kind of a failure that the operating system reports under a number. -/
def IoKind.ofCode : Nat → IoKind
  | 2 => .notFound
  | 13 => .permissionDenied
  | 21 => .isADirectory
  | 22 => .invalidInput
  | 32 => .brokenPipe
  | 98 => .addrInUse
  | 99 => .addrNotAvailable
  | 101 => .networkUnreachable
  | 103 => .connectionAborted
  | 104 => .connectionReset
  | 110 => .timedOut
  | 111 => .connectionRefused
  | _ => .other

structure IoError where
  /-- What kind of failure it is. -/
  kind : IoKind
  /-- The text it brings along, if any. -/
  text : Option String := none
deriving DecidableEq, Repr

namespace IoError

def message (e : IoError) : String := e.text.getD e.kind.message

/-- A failure reported by the operating system under a number. -/
def ofSystem (reason : String) (code : Nat) : IoError :=
  ⟨.ofCode code, some (reason ++ " (os error " ++ Text.natText code ++ ")")⟩

/-- Nobody listens at the address. -/
def connectionRefused : IoError := ofSystem "Connection refused" 111

/-- No route leads to the address. -/
def networkUnreachable : IoError := ofSystem "Network is unreachable" 101

/-- The peer ended the connection abruptly. -/
def connectionReset : IoError := ofSystem "Connection reset by peer" 104

/-- Somebody listens at the address already. -/
def addressInUse : IoError := ofSystem "Address already in use" 98

/-- The address is none that this host has. -/
def addressNotAvailable : IoError := ofSystem "Cannot assign requested address" 99

/-- The address makes no sense for what it is used for. -/
def invalidArgument : IoError := ofSystem "Invalid argument" 22

/-- A directory stands where a file was to be read. -/
def isADirectory : IoError := ofSystem "Is a directory" 21

def notText : IoError := ⟨.invalidData, some "stream did not contain valid UTF-8"⟩

/-- A host name stands for nothing. -/
def unknownName : IoError :=
  ⟨.other, some "failed to lookup address information: Name or service not known"⟩

def nulInName : IoError := ⟨.invalidInput, some "file name contained an unexpected NUL byte"⟩

end IoError

end StartSignal
