/-
# StartSignal.Program.Report -- what a command says at its end

A listener says how its session ended or why it failed, and its exit status follows
from that.  A dispatch succeeds when every worker has been sent the signal;
otherwise it names the workers that were missed.
-/
import StartSignal.Dispatch.Dispatcher
import StartSignal.CommandLine.Config
import StartSignal.Listener.Session
import StartSignal.Program.Startup

namespace StartSignal.Program

open Log

structure Conduct where
  /-- What has been reported, shown or not. -/
  records : List Record
  code : UInt8
  /-- The deliveries that were attempted. -/
  attempts : List Dispatch.Attempt

inductive Signal where
  | interrupt
  | terminate
deriving DecidableEq, Repr

def Signal.name : Signal → String
  | .interrupt => "SIGINT"
  | .terminate => "SIGTERM"

def signalRecord (s : Signal) : Record :=
  Source.shutdown.record .info "termination signal received" [("signal", .quoted s.name)]

/-- What is reported about a command that cannot be begun. -/
def invalidHostRecord (e : CommandLine.InvalidHost) : Record :=
  Source.main.record .error "startgate failed" [("error", .shown e.chain)]

/-- What is reported about a listener that could not begin. -/
def unstartedRecord (e : Listener.Error) : Record :=
  Source.commands.record .error "listener could not start" [("error", .shown e.message)]

def codeField (o : Listener.Outcome) : String × FieldValue := ("code", .number o.exitCode.toNat)

/-- What is reported about a session that has ended. -/
def outcomeRecord (o : Listener.Outcome) : Record :=
  match o with
  | .released reason =>
    Source.commands.record .info "released, starting workload"
      [("reason", .quoted reason.name), codeField o]
  | .timedOut =>
    Source.commands.record .info "timed out, starting workload without signal" [codeField o]
  | .terminated => Source.commands.record .info "terminated" [codeField o]

/-- What is reported about a session, and the exit status. -/
def listenerEnd : Except Listener.Error Listener.Outcome → Record × UInt8
  | .ok o => (outcomeRecord o, o.exitCode)
  | .error e =>
    (Source.commands.record .error "listener failed" [("error", .shown e.message)], e.exitCode)

/-- How a request to listen has gone, by the session that came of it or the error that came
instead of one.  A session that has not ended is no success. -/
def listenConduct : Except Listener.Error Listener.Session → Conduct
  | .error e => ⟨[unstartedRecord e], e.exitCode, []⟩
  | .ok s =>
    match s.ending with
    | none => ⟨s.log, failureExitCode, []⟩
    | some ending =>
      let (record, code) := listenerEnd ending
      ⟨s.log ++ [record], code, []⟩

/-- What is reported when no worker is named. -/
def nobodyRecord (hostIds : String) : Record :=
  Source.commands.record .error "no host ids given" [("host_ids", .quoted hostIds)]

/-- What is reported about a worker, if it was missed. -/
def missedRecord? (o : Dispatch.Outcome) : Option Record :=
  match o.result with
  | .ok _ => none
  | .error e =>
    some (Source.commands.record .warn "worker missed"
      [("address", .shown o.address.host), ("error_kind", .quoted e.kind)])

/-- What is reported about a dispatch, and the exit status. -/
def dispatchEnd (r : Dispatch.Report) : List Record × UInt8 :=
  if r.isSuccess then
    ([Source.commands.record .info "start messages sent successfully"
        [("workers", .number r.length)]], 0)
  else
    (r.outcomes.filterMap missedRecord? ++
      [Source.commands.record .error "start signal not delivered to every worker"
        [("failed", .number r.failed), ("total", .number r.length)]],
      dispatchFailedExitCode)

/-- How a request to dispatch has gone, by the dispatch that came of it. -/
def dispatchConduct (r : Dispatch.Run) : Conduct :=
  match r.report with
  | none => ⟨r.log, crashExitCode, r.attempts⟩
  | some report =>
    let (records, code) := dispatchEnd report
    ⟨r.log ++ records, code, r.attempts⟩

end StartSignal.Program
