/-
# StartSignal.Program.Run -- the program from its start to its exit

A run is a function of the command line, of what the program finds on its host
(`Host`), and of a script of what happens to a program that listens: a controller
connects, sends and goes away, and signals come.  An idle timeout of zero has passed
before the script begins; any other passes after it, and then the controller is gone.
Where a program listens is known only from its log, so a script needs a log that shows
it (`Hindrance`).

What a run leaves (`Exit`) is its exit status, the records its log shows, and what it
says outside of its log.  Of a command line that leads to no command nothing but the
exit status is kept.
-/
import StartSignal.Dispatch.Dispatcher
import StartSignal.Listener.Rehearsal
import StartSignal.Program.Report
import StartSignal.Program.Startup

namespace StartSignal.Program

open CommandLine Log

/-- What a program finds on its host. -/
structure Host where
  /-- The variables of the environment that are text. -/
  lookup : Lookup
  /-- The home of the user, if it is known. -/
  home : Option Path
  /-- What stands at a path. -/
  file : Path → FileState
  /-- How binding an address goes. -/
  bind : SocketAddress → Listener.Binding
  /-- What attempts to connect come to. -/
  network : Network
  /-- Whether a controller on this host gets through. -/
  route : Route
  /-- The address a controller connects from. -/
  controller : SocketAddress
  /-- The concurrency the host suggests. -/
  concurrency : UInt64

inductive Step where
  | connect
  | send (bytes : List UInt8)
  | close
  | signal (s : Signal)
deriving DecidableEq, Repr

inductive Hindrance where
  /-- The log does not show that the program listens. -/
  | unannounced
  /-- The controller does not get through. -/
  | unreachable (e : IoError)
deriving DecidableEq, Repr

structure Exit where
  code : UInt8
  /-- The records the log shows. -/
  records : List Record
  format : Format
  /-- What is said outside of the log. -/
  complaints : List String
  /-- The deliveries that were attempted. -/
  attempts : List Dispatch.Attempt

def Exit.early (code : UInt8) (complaints : List String) : Exit :=
  ⟨code, [], .json, complaints, []⟩

/-- Let a session take one thing that happens. -/
def rehearse (r : Listener.Rehearsal) : Step → Except IoError Listener.Rehearsal
  | .connect => r.step .connect
  | .send bytes => r.step (.send bytes)
  | .close => r.step .close
  | .signal s => { r with session := r.session.note (signalRecord s) }.step .cancel

/-- Let a session take what happens until it is over. -/
def rehearseAll : Listener.Rehearsal → List Step → Except IoError Listener.Rehearsal
  | r, [] => .ok r
  | r, s :: ss =>
    if r.isOver then .ok r
    else match rehearse r s with
      | .error e => .error e
      | .ok r => rehearseAll r ss

/-- Let a session that listens run, and take what happens to it. -/
def attend (h : Host) (session : Listener.Session) (script : List Step) :
    Except IoError Listener.Rehearsal := do
  let r ← (Listener.Rehearsal.start session h.route h.controller).step .run
  let r ← if session.config.idleTimeout.nanos = 0 then r.step .expire else .ok r
  let r ← rehearseAll r script
  if r.isOver then .ok r else (← r.step .expire).step .close

/-- Whether a session is still there for a script to begin. -/
def awaits (session : Listener.Session) (script : List Step) : Bool :=
  !script.isEmpty && session.config.idleTimeout.nanos ≠ 0

def listen (h : Host) (log : Setup) (config : Listener.Config) (script : List Step) :
    Except Hindrance Conduct :=
  match Listener.Session.bind config (h.bind config.address) with
  | .error e => .ok (listenConduct (.error e))
  | .ok session =>
    if awaits session script ∧ log.shown session.log = [] then .error .unannounced
    else match attend h session script with
      | .error e => .error (.unreachable e)
      | .ok r => .ok (listenConduct (.ok r.finish.session))

def dispatch (h : Host) (config : Dispatch.Config) (request : DispatchRequest) : Conduct :=
  let ids := hostIds request.hostIds
  if ids.isEmpty then ⟨[nobodyRecord request.hostIds], dispatchFailedExitCode, []⟩
  else dispatchConduct (Dispatch.dispatch h.network config request.network ids)

def conduct (h : Host) (r : Ready) (script : List Step) : Except Hindrance Conduct :=
  match r.command with
  | .listen request =>
    match request.config r.settings.listener with
    | .error e => .ok ⟨[invalidHostRecord e], failureExitCode, []⟩
    | .ok config => listen h r.log config script
  | .dispatch request =>
    .ok (dispatch h (request.config r.settings.dispatch h.concurrency) request)

def run (h : Host) (words : List String) (script : List Step) :
    Except Hindrance Exit :=
  match Invocation.parse words with
  | .error halt => .ok (.early halt.exitCode [])
  | .ok invocation =>
    match prepare invocation h.home h.file h.lookup with
    | .error e => .ok (.early e.exitCode e.lines)
    | .ok r => (conduct h r script).map fun c =>
      ⟨c.code, r.log.shown (r.opening ++ c.records), r.log.format, r.complaints, c.attempts⟩

end StartSignal.Program
