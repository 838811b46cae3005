/-
# StartSignal.Proofs.Dispatch.Limit -- concurrency that the gate for attempts cannot hold

The gate for attempts holds at most `maxPermits` permits.  A dispatch to somebody reports
one outcome for each host id exactly when the concurrency asked for, or set, or suggested
by the host is within that limit; above it the program ends before the first attempt.  A
variable of the environment that counts is always within the limit.  The check on settings
and the command line let every concurrency but zero through, so they do not keep a dispatch
from ending so.

Main result: `reports_iff_held`.
-/
import StartSignal.CommandLine.Config
import StartSignal.Dispatch.Dispatcher
import StartSignal.Proofs.Settings.Variables

namespace StartSignal

/-! ## Concurrency that is let through -/

def Settings.withConcurrency (s : Settings) (c : UInt64) : Settings :=
  Setting.maxConcurrency.put (some c) s

theorem Settings.validate_withConcurrency {s : Settings} (valid : s.validate = .ok ()) {c : UInt64}
    (nonzero : c ≠ 0) : (s.withConcurrency c).validate = .ok () := by
  have ceiling : s.listener.messageCeiling ≠ 0 := by
    intro zero
    simp [validate, zero] at valid
  simp [validate, withConcurrency, Setting.maxConcurrency, ceiling, nonzero]

namespace CommandLine

open Text

theorem longNumber_natText {c : UInt64} (nonzero : c ≠ 0) :
    longNumber 1 (natText c.toNat) = .ok c := by
  have below : c.toNat < UInt64.size := c.toNat_lt
  have above : 1 ≤ c.toNat := by
    have other : c.toNat ≠ 0 := fun zero => nonzero (UInt64.toNat_inj.mp zero)
    omega
  have digits : unsigned? (natText c.toNat).toList = some c.toNat := by
    rw [unsigned?_eq_some_iff, natText, String.toList_ofList]
    exact isNumeral_decimal _
  have numeral : Width.u64.numeral? (natText c.toNat).toList = some (c.toNat : Int) :=
    (Width.numeral?_eq_some_iff rfl).mpr
      ⟨_, rfl, digits, Int.le_sub_one_of_lt (Int.ofNat_lt.mpr below)⟩
  have within : ((1 : Nat) : Int) ≤ (c.toNat : Int) ∧
      (c.toNat : Int) ≤ (UInt64.size - 1 : Nat) := by
    simp only [UInt64.size] at below ⊢
    omega
  simp only [longNumber, number, numeral, Option.filter_some, within]
  simp [Except.map]

/-- A numeral is no option. -/
theorem ofText_natText (n : Nat) : Word.ofText (natText n) = .plain := by
  obtain ⟨ds, some, digits, -, same⟩ := exists_digits_decimal n
  cases ds with
  | nil => exact absurd rfl some
  | cons d ds =>
    have first : digitChar d ≠ '-' := by
      have each : ∀ e < 10, digitChar e ≠ '-' := by decide
      exact each d (digits d List.mem_cons_self)
    unfold Word.ofText
    rw [natText, String.toList_ofList, same, List.map_cons]
    split
    · simp_all
    · simp_all
    · simp_all
    · rfl

theorem parse_request {c : UInt64} (nonzero : c ≠ 0) (network hostIds : String) :
    DispatchRequest.parse ["--concurrency", natText c.toNat, "--", network, hostIds] =
      .ok (none, ⟨network, hostIds, { concurrency := some c }⟩) := by
  have option : Word.ofText "--concurrency" = .long "concurrency" none := by decide +kernel
  have divider : Word.ofText "--" = .divider := by decide +kernel
  unfold DispatchRequest.parse Grammar.read
  have value := longNumber_natText nonzero
  simp [Grammar.readWords, option, divider, ofText_natText, DispatchRequest.grammar,
    Grammar.readLong, Grammar.flag?, Grammar.readPlain, Grammar.readDivided, Grammar.readPlace,
    Reading.hold, Reading.settle, Reading.put, Slot.ofValue, Slot.settingsPath, Except.map,
    Except.bind, value, bind, pure, Except.pure]

/-- The command line takes every concurrency but zero, whatever the fleet. -/
theorem parse_concurrency {c : UInt64} (nonzero : c ≠ 0) (network hostIds : String) :
    Invocation.parse
        ["dispatch", "--concurrency", natText c.toNat, "--", network, hostIds] =
      .ok ⟨none, .dispatch ⟨network, hostIds, { concurrency := some c }⟩⟩ := by
  have request := parse_request nonzero network hostIds
  have command : Invocation.parseCommand "dispatch"
      ["--concurrency", natText c.toNat, "--", network, hostIds] =
        .ok (none, .dispatch ⟨network, hostIds, { concurrency := some c }⟩) := by
    show (DispatchRequest.parse _).map _ = _
    rw [request]
    rfl
  show (Invocation.parseCommand "dispatch" _ >>= _) = _
  rw [command]
  rfl

end CommandLine

namespace Dispatch

open CommandLine

variable {n : Network} {config : Config} {network : String}

/-! ## Concurrency that is held -/

/-- A dispatch comes to a report with one outcome for each host id, in their order. -/
def Run.Reports (run : Run) (network : String) (hostIds : List String) : Prop :=
  ∃ report, run.report = some report ∧
    report.outcomes.map (·.address) = WorkerAddress.forHosts network hostIds

theorem addresses_outcomes (addresses : List WorkerAddress) (make : WorkerAddress → Attempt) :
    (outcomes addresses (addresses.map make)).map (·.address) = addresses := by
  induction addresses with
  | nil => rfl
  | cons address addresses ih => exact congrArg (address :: ·) ih

theorem reports_of_held (held : config.concurrency ≤ maxPermits) (first : String)
    (rest : List String) :
    (dispatch n config network (first :: rest)).Reports network (first :: rest) := by
  have within : ¬ maxPermits < config.concurrency := Nat.not_lt.mpr held
  refine ⟨⟨outcomes (WorkerAddress.forHosts network (first :: rest))
    ((WorkerAddress.forHosts network (first :: rest)).map (deliver n config))⟩, ?_, ?_⟩
  · simp [dispatch, WorkerAddress.forHosts, within]
  · exact addresses_outcomes _ _

/-- Above the limit the program ends before the first attempt. -/
theorem dispatch_beyond (beyond : maxPermits < config.concurrency) (first : String)
    (rest : List String) :
    dispatch n config network (first :: rest) =
      ⟨[openingRecord config (rest.length + 1)], none, []⟩ := by
  simp [dispatch, WorkerAddress.forHosts, beyond]

/-- The concurrency of a dispatch, unless it is zero: what is asked for, else what is set,
else what the host suggests. -/
def wanted (request : DispatchRequest) (s : Settings) (hostConcurrency : UInt64) : UInt64 :=
  (request.options.concurrency.or s.dispatch.maxConcurrency).getD hostConcurrency

theorem concurrency_config_le_iff (request : DispatchRequest) (s : Settings)
    (hostConcurrency : UInt64) :
    (request.config s.dispatch hostConcurrency).concurrency ≤ maxPermits ↔
      (wanted request s hostConcurrency).toNat ≤ maxPermits := by
  have same : (request.config s.dispatch hostConcurrency).concurrency =
      max (wanted request s hostConcurrency).toNat 1 := rfl
  have one : 1 ≤ maxPermits := by decide
  rw [same]
  omega

theorem wanted_overridden {request : DispatchRequest} (silent : request.options.concurrency = none)
    {lookup : Lookup} {c : Option UInt64} (set : Setting.maxConcurrency.Overridden lookup c)
    (s : Settings) (hostConcurrency : UInt64) :
    (wanted request (s.override lookup).1 hostConcurrency).toNat ≤ 4096 := by
  have same : (s.override lookup).1.dispatch.maxConcurrency = c :=
    (Setting.governed ⟨_, Setting.maxConcurrency⟩ (by simp [Setting.all])).of_overridden set
  obtain ⟨_, _, -, -, k, rfl, reads⟩ := set
  rw [wanted, silent, same]
  exact reads.2.2

/-! ## Main result -/

/-- **A dispatch to somebody reports one outcome for each host id exactly when the concurrency
is within the limit.**  Above it the program ends before the first attempt.  A variable that
counts stays within the limit, but neither the check on settings nor the command line does: they
let every concurrency through except zero. -/
theorem reports_iff_held (n : Network) (s : Settings) (hostConcurrency : UInt64)
    (network first : String) (rest : List String) :
    (∀ request : DispatchRequest,
      ((dispatch n (request.config s.dispatch hostConcurrency) network (first :: rest)).Reports
          network (first :: rest) ↔
        (wanted request s hostConcurrency).toNat ≤ maxPermits) ∧
      (maxPermits < (wanted request s hostConcurrency).toNat →
        (dispatch n (request.config s.dispatch hostConcurrency) network (first :: rest)).report =
            none ∧
          (dispatch n (request.config s.dispatch hostConcurrency) network
            (first :: rest)).attempts = [])) ∧
    (∀ lookup c, Setting.maxConcurrency.Overridden lookup c →
      ∀ request : DispatchRequest, request.options.concurrency = none →
        (dispatch n (request.config (s.override lookup).1.dispatch hostConcurrency) network
          (first :: rest)).Reports network (first :: rest)) ∧
    (∀ c : UInt64, c ≠ 0 →
      (s.validate = .ok () → (s.withConcurrency c).validate = .ok ()) ∧
      ∀ hostIds, Invocation.parse
          ["dispatch", "--concurrency", Text.natText c.toNat, "--", network, hostIds] =
        .ok ⟨none, .dispatch ⟨network, hostIds, { concurrency := some c }⟩⟩) := by
  refine ⟨fun request => ?_, fun lookup c set request silent => ?_, fun c nonzero => ?_⟩
  case refine_1 =>
    have held := concurrency_config_le_iff request s hostConcurrency
    have ends : maxPermits < (wanted request s hostConcurrency).toNat →
        dispatch n (request.config s.dispatch hostConcurrency) network (first :: rest) =
          ⟨[openingRecord (request.config s.dispatch hostConcurrency) (rest.length + 1)],
            none, []⟩ :=
      fun beyond => dispatch_beyond (by omega) first rest
    refine ⟨⟨fun ⟨report, reported, _⟩ => ?_, fun within => ?_⟩, fun beyond => ?_⟩
    · refine Nat.not_lt.mp fun beyond => ?_
      rw [ends beyond] at reported
      cases reported
    · exact reports_of_held (held.mpr within) first rest
    · rw [ends beyond]
      exact ⟨rfl, rfl⟩
  case refine_2 =>
    have few := wanted_overridden silent set s hostConcurrency
    have held : 4096 ≤ maxPermits := by decide
    exact reports_of_held ((concurrency_config_le_iff _ _ _).mpr (Nat.le_trans few held)) first rest
  case refine_3 =>
    exact ⟨fun valid => s.validate_withConcurrency valid nonzero,
      fun hostIds => parse_concurrency nonzero network hostIds⟩

/-- **A concurrency one above the limit passes the check on settings** and ends a dispatch to a
single host without a report. -/
theorem valid_concurrency_not_held :
    (Settings.standard.withConcurrency 2305843009213693952).validate = .ok () ∧
      ¬ (dispatch (.loopback [.v4 ⟨127, 0, 0, 1⟩] [])
          (DispatchRequest.config ⟨"127.0", "0.1", {}⟩
            (Settings.standard.withConcurrency 2305843009213693952).dispatch 1)
          "127.0" ["0.1"]).Reports "127.0" ["0.1"] := by
  refine ⟨rfl, ?_⟩
  rintro ⟨report, reported, -⟩
  rw [dispatch_beyond (by decide)] at reported
  cases reported

end Dispatch

end StartSignal
