/-
# StartSignal.Proofs.Dispatch.Independence -- no delivery depends on another

In a network that stays as it is, a dispatch can come to one report only, in whatever order
its tasks take their turns, and there is an order that leads to it (`mayReport_iff`).  The
report is made of what comes of each host id alone (`outcomeOf`), and that depends on nothing
but what its host resolves to and how the address found there answers (`deliver_congr`).  So
host ids can be added, put in another order and attempted more or fewer at a time, and
addresses of other workers can behave otherwise: the outcome of a host id stays.

Main result: `deliveries_independent`.
-/
import Mathlib.Logic.Equiv.Defs
import StartSignal.Proofs.Dispatch.Interleaving

namespace StartSignal.Dispatch

/-! ## One delivery -/

/-- Two networks do the same for a host: it leads to one address in both, and the address
answers alike. -/
def SameFor (n n' : Network) (host : String) (port : UInt16) : Prop :=
  target n' host port = target n host port ∧
    ∀ a, target n host port = .ok a → n'.answer a = n.answer a

theorem deliver_congr {n n' : Network} {config : Config} {address : WorkerAddress}
    (same : SameFor n n' address.host config.port) :
    deliver n' config address = deliver n config address := by
  obtain ⟨found, answers⟩ := same
  unfold deliver
  dsimp only
  rw [found]
  cases leads : target n address.host config.port with
  | error e => rfl
  | ok a =>
    dsimp only
    rw [answers a leads]

/-- How many attempts are made at a time is nothing to a delivery. -/
theorem deliver_limit (n : Network) (config : Config) (limit : UInt64) (address : WorkerAddress) :
    deliver n { config with maxConcurrency := limit } address = deliver n config address := by
  unfold deliver
  dsimp only

/-- What comes of a host id. -/
def outcomeOf (n : Network) (config : Config) (network id : String) : Outcome :=
  ⟨⟨network, id⟩, (deliver n config ⟨network, id⟩).result⟩

/-! ## All orders -/

/-- The tasks of a dispatch: each delivers to its own host. -/
def deliveries (n : Network) (config : Config) (network : String) (hostIds : List String)
    (i : Nat) : Ending :=
  .returned (deliver n config ⟨network, hostIds.getD i ""⟩).result

/-- Some order of the turns of its tasks leads a dispatch to a report. -/
def MayReport (n : Network) (config : Config) (network : String) (hostIds : List String)
    (r : Report) : Prop :=
  ∃ s ms t, Schedule.start? config network hostIds = some s ∧
    s.run? (deliveries n config network hostIds) ms = some t ∧ t.report = some r

namespace Schedule

/-- A dispatch that is not over can be brought to its report. -/
theorem Sound.exists_report {concurrency : Nat} {attempt : Nat → Ending}
    {addresses : List WorkerAddress} {s : Schedule} (sound : Sound concurrency attempt addresses s)
    (positive : 0 < concurrency) : ∃ ms t r, s.run? attempt ms = some t ∧ t.report = some r := by
  -- Every move uses up a turn, and there is one to make until the report is there.
  induction turns : s.turnsLeft using Nat.strongRecOn generalizing s with
  | ind left ih =>
    cases report : s.report with
    | some r => exact ⟨[], s, r, rfl, report⟩
    | none =>
      obtain ⟨m, taken⟩ := sound.onward positive report
      obtain ⟨u, taken⟩ := Option.isSome_iff_exists.mp taken
      have fewer : u.turnsLeft < left := turns ▸ turnsLeft_step taken
      obtain ⟨ms, t, r, ran, reported⟩ := ih _ fewer (sound.step taken) rfl
      refine ⟨m :: ms, t, r, ?_, reported⟩
      rw [run?_cons, taken]
      exact ran

end Schedule

section Orders

variable {n : Network} {config : Config} {network : String} {hostIds : List String} {r : Report}

theorem deliveries_eq {i : Nat} {id : String} (here : hostIds[i]? = some id) :
    deliveries n config network hostIds i =
      .returned (deliver n config ⟨network, id⟩).result := by
  rw [deliveries, List.getD_eq_getElem?_getD, here, Option.getD_some]

theorem expected_deliveries (n : Network) (config : Config) (network : String)
    (hostIds : List String) :
    expected (deliveries n config network hostIds) (WorkerAddress.forHosts network hostIds) =
      hostIds.map (outcomeOf n config network) := by
  apply List.ext_getElem?
  intro i
  rw [expected_forHosts, List.getElem?_mapIdx, List.getElem?_map]
  cases here : hostIds[i]? with
  | none => simp only [Option.map_none]
  | some id => simp only [Option.map_some, deliveries_eq here, Ending.result, outcomeOf]

/-- Whatever the order was, the report is that of each host id alone. -/
theorem report_deliveries {t : Schedule}
    (sound : Schedule.Sound config.concurrency (deliveries n config network hostIds)
      (WorkerAddress.forHosts network hostIds) t)
    (reported : t.report = some r) : r = ⟨hostIds.map (outcomeOf n config network)⟩ := by
  have outcomes := (sound.reported r reported).1
  rw [expected_deliveries] at outcomes
  cases r
  exact congrArg ReportOf.mk outcomes

/-- Every order leads to one report, that of each host id alone, and some order does. -/
theorem mayReport_iff (held : config.concurrency ≤ maxPermits) :
    MayReport n config network hostIds r ↔ r = ⟨hostIds.map (outcomeOf n config network)⟩ := by
  obtain ⟨s, begins, sound⟩ :=
    Schedule.start?_sound config network hostIds (deliveries n config network hostIds) held
  constructor
  · rintro ⟨s', ms, t, begins', ran, reported⟩
    cases begins.symm.trans begins'
    exact report_deliveries (sound.run ran).1 reported
  · rintro rfl
    obtain ⟨ms, t, r, ran, reported⟩ := sound.exists_report (Schedule.concurrency_pos config)
    cases report_deliveries (sound.run ran).1 reported
    exact ⟨s, ms, t, begins, ran, reported⟩

end Orders

/-! ## Main result -/

/-- What a network makes of dispatches to its workers, whatever their tasks' order. -/
structure Independent (n : Network) (config : Config) (network : String) : Prop where
  /-- A dispatch comes to a report, and to one only: that of attempts made one by one. -/
  decided : ∀ hostIds, ∃ r, (dispatch n config network hostIds).report = some r ∧
    ∀ r', MayReport n config network hostIds r' ↔ r' = r
  /-- More host ids have their outcomes after those of the others. -/
  appended : ∀ a b ra rb r, MayReport n config network a ra → MayReport n config network b rb →
    MayReport n config network (a ++ b) r → r.outcomes = ra.outcomes ++ rb.outcomes
  /-- Host ids in another order have their outcomes in that order. -/
  permuted : ∀ {k : Nat} (hostIds : Fin k → String) (σ : Equiv.Perm (Fin k)) (r r' : Report),
    MayReport n config network (List.ofFn hostIds) r →
    MayReport n config network (List.ofFn (hostIds ∘ σ)) r' →
    ∃ outcomes : Fin k → Outcome,
      r.outcomes = List.ofFn outcomes ∧ r'.outcomes = List.ofFn (outcomes ∘ σ)
  /-- Another limit on attempts, if it can be held, makes no difference. -/
  limit : ∀ limit hostIds r r',
    ({ config with maxConcurrency := limit } : Config).concurrency ≤ maxPermits →
    MayReport n config network hostIds r →
    MayReport n { config with maxConcurrency := limit } network hostIds r' → r' = r
  /-- A network that does the same for the host of a worker gives it the same outcome, whatever
  it does for others. -/
  apart : ∀ (n' : Network) (hostIds : List String) (r r' : Report) (i : Nat) (id : String),
    hostIds[i]? = some id →
    SameFor n n' (WorkerAddress.host ⟨network, id⟩) config.port →
    MayReport n config network hostIds r → MayReport n' config network hostIds r' →
    r'.outcomes[i]? = r.outcomes[i]?

/-- **The outcome of a host id is its own.**  It depends neither on the others nor on their
order, on the order of the tasks, on the limit on attempts, or on how addresses of other workers
behave. -/
theorem deliveries_independent (n : Network) (config : Config) (network : String)
    (held : config.concurrency ≤ maxPermits) : Independent n config network := by
  constructor
  case decided =>
    intro hostIds
    refine ⟨_, dispatch_expected (fun i id here => deliveries_eq here) held, fun r' => ?_⟩
    rw [mayReport_iff held, expected_deliveries]
  case appended =>
    intro a b ra rb r reportedA reportedB reported
    rw [mayReport_iff held] at reportedA reportedB reported
    subst reportedA reportedB reported
    exact List.map_append
  case permuted =>
    intro k hostIds σ r r' reported reported'
    rw [mayReport_iff held] at reported reported'
    subst reported reported'
    exact ⟨outcomeOf n config network ∘ hostIds, List.map_ofFn, List.map_ofFn⟩
  case limit =>
    intro limit hostIds r r' held' reported reported'
    rw [mayReport_iff held] at reported
    rw [mayReport_iff held'] at reported'
    subst reported reported'
    have alike : outcomeOf n { config with maxConcurrency := limit } network =
        outcomeOf n config network := by
      funext id
      rw [outcomeOf, deliver_limit, outcomeOf]
    rw [alike]
  case apart =>
    intro n' hostIds r r' i id here same reported reported'
    rw [mayReport_iff held] at reported reported'
    subst reported reported'
    have alike : outcomeOf n' config network id = outcomeOf n config network id := by
      rw [outcomeOf, deliver_congr same, outcomeOf]
    simp only [List.getElem?_map, here, Option.map_some, alike]

/-- A worker that answers, one that stays silent and one that refuses, one at a time. -/
theorem deliveries_independent_mixed :
    let n := Network.loopback [.v4 ⟨127, 0, 0, 1⟩] [.v4 ⟨127, 0, 0, 2⟩]
    let config : Config := ⟨startPort, 0, some (.ofSeconds 1)⟩
    config.concurrency ≤ maxPermits ∧ ∃ ra rb r,
      MayReport n config "127.0" ["0.1"] ra ∧ MayReport n config "127.0" ["0.2", "0.3"] rb ∧
        MayReport n config "127.0" ["0.1", "0.2", "0.3"] r ∧
        r.outcomes = ra.outcomes ++ rb.outcomes ∧
        r.outcomes.map OutcomeOf.isSent = [true, false, false] := by
  intro n config
  have held : config.concurrency ≤ maxPermits := by decide
  have independent := deliveries_independent n config "127.0" held
  obtain ⟨ra, -, onlyA⟩ := independent.decided ["0.1"]
  obtain ⟨rb, -, onlyB⟩ := independent.decided ["0.2", "0.3"]
  obtain ⟨r, reported, only⟩ := independent.decided ["0.1", "0.2", "0.3"]
  have mayA := (onlyA ra).mpr rfl
  have mayB := (onlyB rb).mpr rfl
  have may := (only r).mpr rfl
  refine ⟨held, ra, rb, r, mayA, mayB, may, independent.appended _ _ _ _ _ mayA mayB may, ?_⟩
  have sent : (dispatch n config "127.0" ["0.1", "0.2", "0.3"]).report.map
      (fun r => r.outcomes.map OutcomeOf.isSent) = some [true, false, false] := by decide +kernel
  rw [reported] at sent
  exact Option.some.inj sent

end StartSignal.Dispatch
