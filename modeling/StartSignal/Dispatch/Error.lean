/-
# StartSignal.Dispatch.Error -- why a start signal was not delivered

A delivery fails while the host is resolved, while connecting, while sending, or
because the task that makes it fails.  The failure of a whole dispatch carries the
outcome of every delivery, so outcomes and errors are defined together: an outcome is
what came of one worker address (`Outcome`), and its error may be a dispatch of its
own that failed.
-/
import StartSignal.Duration
import StartSignal.Net.Address
import StartSignal.Wire.Reading
import StartSignal.Worker

namespace StartSignal.Dispatch

/-- What came of one worker address, with errors in `ε`. -/
structure OutcomeOf (ε : Type) where
  address : WorkerAddress
  /-- The socket address reached, or why none was. -/
  result : Except ε SocketAddress

/-- The outcomes of a dispatch in the order of the host ids, with errors in `ε`. -/
structure ReportOf (ε : Type) where
  outcomes : List (OutcomeOf ε)

namespace OutcomeOf

variable {ε : Type}

def isSent (o : OutcomeOf ε) : Bool :=
  match o.result with
  | .ok _ => true
  | .error _ => false

end OutcomeOf

namespace ReportOf

variable {ε : Type}

def length (r : ReportOf ε) : Nat := r.outcomes.length

def succeeded (r : ReportOf ε) : Nat := (r.outcomes.filter OutcomeOf.isSent).length

def failed (r : ReportOf ε) : Nat := r.length - r.succeeded

def isSuccess (r : ReportOf ε) : Bool := r.failed = 0

def failures (r : ReportOf ε) : List (OutcomeOf ε) := r.outcomes.filter fun o => !o.isSent

def sent (r : ReportOf ε) : List WorkerAddress :=
  (r.outcomes.filter OutcomeOf.isSent).map OutcomeOf.address

end ReportOf

inductive Error where
  /-- The host could not be resolved. -/
  | resolve (host : String) (source : IoError)
  /-- The host has no addresses. -/
  | unresolvable (host : String)
  /-- The connection was not made. -/
  | connect (host : String) (source : IoError)
  /-- The connection was not made in time. -/
  | connectTimeout (host : String) (timeout : Duration)
  /-- The signal could not be written. -/
  | send (host : String) (source : Wire.WireError)
  /-- The task that was to deliver failed. -/
  | task (host : String) (reason : String)
  /-- Some address of a dispatch was not delivered to. -/
  | incomplete (report : ReportOf Error)

abbrev Outcome := OutcomeOf Error

abbrev Report := ReportOf Error

namespace Error

def kind : Error → String
  | .resolve .. | .unresolvable _ => "resolve_failed"
  | .connect .. => "connect_failed"
  | .connectTimeout .. => "connect_timeout"
  | .send .. => "send_failed"
  | .task .. => "task_failed"
  | .incomplete _ => "incomplete"

def message : Error → String
  | .resolve host source => "failed to resolve " ++ host ++ ": " ++ source.message
  | .unresolvable host => host ++ " resolved to no addresses"
  | .connect host source => "failed to connect to " ++ host ++ ": " ++ source.message
  | .connectTimeout host timeout =>
    "connect to " ++ host ++ " timed out after " ++ timeout.render
  | .send host source => "failed to send start to " ++ host ++ ": " ++ source.message
  | .task host reason => "dispatch task for " ++ host ++ " failed: " ++ reason
  | .incomplete report =>
    "start signal not delivered to " ++ Text.natText report.failed ++ " of " ++
      Text.natText report.length ++ " workers"

end Error

/-- The report itself when every address was delivered to, and else the error that
carries it. -/
def ReportOf.result (r : Report) : Except Error Report :=
  if r.isSuccess then .ok r else .error (.incomplete r)

end StartSignal.Dispatch
