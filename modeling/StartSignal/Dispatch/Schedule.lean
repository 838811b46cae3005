/-
# StartSignal.Dispatch.Schedule -- the orders in which attempts may be made

Every host id has a task, and the dispatcher joins the tasks in the order of the host
ids.  A task waits for a permit, makes its attempt while it holds the permit, logs what
came of it, gives the permit back, and is over.  A task that panics while it makes its
attempt logs nothing, and gives its permit back all the same.

A task does one thing after the other, so a step of a schedule only says whose turn it
is (`Move`), and `Schedule.step?` takes it if it can be taken.  The schedules that can
be reached are those of all sequences of moves: any order the host may choose.
-/
import StartSignal.Dispatch.Dispatcher

namespace StartSignal.Dispatch

open Log

inductive Ending where
  /-- Its attempt has come to something. -/
  | returned (result : Except Error SocketAddress)
  /-- It panicked during its attempt. -/
  | panicked (reason : String)

/-- What is reported of a worker whose task has ended. -/
def Ending.result (address : WorkerAddress) : Ending → Except Error SocketAddress
  | .returned result => result
  | .panicked reason => .error (.task address.host reason)

inductive Phase where
  /-- It waits for a permit. -/
  | waiting
  /-- It holds a permit and has not begun its attempt. -/
  | admitted
  /-- It is making its attempt. -/
  | attempting
  /-- Its attempt has come to something, which is not logged yet. -/
  | attempted (result : Except Error SocketAddress)
  /-- It has only its permit to give back. -/
  | leaving (ending : Ending)
  | ended (ending : Ending)

namespace Phase

def holdsPermit : Phase → Bool
  | .waiting | .ended _ => false
  | .admitted | .attempting | .attempted _ | .leaving _ => true

def isAttempting : Phase → Bool
  | .attempting => true
  | _ => false

def isEnded : Phase → Bool
  | .ended _ => true
  | _ => false

end Phase

/-- Whose turn it is. -/
inductive Move where
  /-- The task at a position goes on. -/
  | advance (i : Nat)
  /-- The dispatcher joins the next task. -/
  | join
  /-- The dispatcher returns, all tasks joined. -/
  | close
deriving DecidableEq, Repr

structure Schedule where
  addresses : List WorkerAddress
  /-- The permits nobody holds. -/
  permits : Nat
  /-- The tasks, in the order of the host ids. -/
  phases : List Phase
  /-- The positions at which an attempt has been begun, latest first. -/
  begun : List Nat
  /-- The outcomes joined so far, in order. -/
  outcomes : List Outcome
  log : List Record
  /-- The report, once the dispatcher has returned. -/
  report : Option Report

namespace Schedule

/-- A dispatch before its first step; `none` when the limit on attempts ends the program.
Without host ids there is nothing to be done. -/
def start? (config : Config) (network : String) (hostIds : List String) : Option Schedule :=
  let addresses := WorkerAddress.forHosts network hostIds
  if addresses.isEmpty then
    some ⟨[], config.concurrency, [], [], [], [emptyRecord network], some ⟨[]⟩⟩
  else if maxPermits < config.concurrency then none
  else
    some ⟨addresses, config.concurrency, addresses.map fun _ => .waiting, [], [],
      [openingRecord config addresses.length], none⟩

def enter (s : Schedule) (i : Nat) (p : Phase) : Schedule := { s with phases := s.phases.set i p }

def advance? (ending : Ending) (s : Schedule) (i : Nat) (address : WorkerAddress) :
    Phase → Option Schedule
  | .waiting =>
    if 0 < s.permits then some { s.enter i .admitted with permits := s.permits - 1 } else none
  | .admitted => some { s.enter i .attempting with begun := i :: s.begun }
  | .attempting =>
    match ending with
    | .returned result => some (s.enter i (.attempted result))
    | .panicked _ => some (s.enter i (.leaving ending))
  | .attempted result =>
    some { s.enter i (.leaving (.returned result)) with
      log := s.log ++ [attemptRecord address result] }
  | .leaving ending => some { s.enter i (.ended ending) with permits := s.permits + 1 }
  | .ended _ => none

/-- What is logged about a worker when its task is joined. -/
def joinRecords (address : WorkerAddress) : Ending → List Record
  | .returned _ => []
  | .panicked reason =>
    [Source.dispatcher.record .warn "dispatch task failed"
      [("address", .shown address.host), ("error", .shown reason)]]

/-- Take a step, if it can be taken; `attempt` says how the task at a position ends. -/
def step? (attempt : Nat → Ending) (s : Schedule) : Move → Option Schedule
  | .advance i =>
    match s.addresses[i]?, s.phases[i]? with
    | some address, some phase => s.advance? (attempt i) i address phase
    | _, _ => none
  | .join =>
    match s.addresses[s.outcomes.length]?, s.phases[s.outcomes.length]? with
    | some address, some (.ended ending) =>
      some { s with
        outcomes := s.outcomes ++ [⟨address, ending.result address⟩]
        log := s.log ++ joinRecords address ending }
    | _, _ => none
  | .close =>
    if s.report.isNone ∧ s.outcomes.length = s.addresses.length then
      some { s with
        report := some ⟨s.outcomes⟩, log := s.log ++ [closingRecord ⟨s.outcomes⟩] }
    else none

/-- Take steps in turn; `none` when one cannot be taken. -/
def run? (attempt : Nat → Ending) : Schedule → List Move → Option Schedule
  | s, [] => some s
  | s, m :: ms => (s.step? attempt m).bind fun s => run? attempt s ms

def underWay (s : Schedule) : Nat := s.phases.countP Phase.isAttempting

end Schedule

end StartSignal.Dispatch
