/-
# StartSignal.Proofs.Dispatch.Journal -- what a dispatch logs of its workers

The tasks of a dispatch write their records in the order in which they come to an end, which
the host chooses.  What is kept account of is the positions of the tasks that have written
theirs (`Told`): a task writes as it leaves its attempt behind, once, and the dispatcher only
writes before the first of them and after the last.  So when the dispatcher returns, the records
between its two are those of all outcomes, in some order (`Journal`).

A worker that is named twice has two tasks and two records.  The records are told apart by the
positions of their tasks and not by what they hold.

Main result: `outcomes_told_once`.
-/
import Mathlib.Data.List.Forall2
import Mathlib.Data.List.Perm.Subperm
import StartSignal.Proofs.Dispatch.Independence

namespace StartSignal.Dispatch

open Log

/-! ## One record -/

/-- A record tells what came of a worker. -/
structure TellsOf (o : Outcome) (r : Record) : Prop where
  address : r.field? "address" = some (.shown o.address.host)
  delivered : (r.level = .info ∧ r.text = "start signal sent") ↔ ∃ target, o.result = .ok target
  missed : ∀ kind, (r.level = .warn ∧ r.text = "start signal not delivered" ∧
      r.field? "error_kind" = some (.quoted kind)) ↔
    ∃ e, o.result = .error e ∧ e.kind = kind

/-- A record opens a dispatch to some workers. -/
structure Opens (config : Config) (workers : Nat) (r : Record) : Prop where
  level : r.level = .info
  text : r.text = "sending start signal"
  workers : r.field? "workers" = some (.number workers)
  concurrency : r.field? "concurrency" = some (.number (max config.maxConcurrency.toNat 1))

/-- A record closes a dispatch that has come to a report. -/
structure Closes (report : Report) (r : Record) : Prop where
  level : r.level = .info
  text : r.text = "dispatch complete"
  sent : r.field? "sent" = some (.number report.succeeded)
  failed : r.field? "failed" = some (.number report.failed)
  total : r.field? "total" = some (.number report.length)

def outcomeRecord (o : Outcome) : Record := attemptRecord o.address o.result

theorem tellsOf_outcomeRecord (o : Outcome) : TellsOf o (outcomeRecord o) := by
  obtain ⟨address, _ | _⟩ := o <;> constructor <;>
    simp [outcomeRecord, attemptRecord, Source.record, Record.field?]

theorem opens_openingRecord (config : Config) (workers : Nat) :
    Opens config workers (openingRecord config workers) := ⟨rfl, rfl, rfl, rfl⟩

theorem closes_closingRecord (report : Report) : Closes report (closingRecord report) :=
  ⟨rfl, rfl, rfl, rfl, rfl⟩

/-- Each outcome is told of by its own record. -/
theorem tellsOf_records (outcomes : List Outcome) :
    List.Forall₂ TellsOf outcomes (outcomes.map outcomeRecord) := by
  rw [List.forall₂_map_right_iff]
  exact List.forall₂_same.mpr fun o _ => tellsOf_outcomeRecord o

/-! ## Tasks that have written their records -/

/-- A task whose attempt comes to a result, whatever its position. -/
def returning (results : Nat → Except Error SocketAddress) (i : Nat) : Ending :=
  .returned (results i)

/-- Whether the task has logged what came of its attempt. -/
def Phase.hasTold : Phase → Bool
  | .waiting | .admitted | .attempting | .attempted _ => false
  | .leaving _ | .ended _ => true

namespace Schedule

variable {concurrency : Nat} {results : Nat → Except Error SocketAddress}
  {addresses : List WorkerAddress} {opening : Record} {order : List Nat} {s t : Schedule}

/-- What is to be reported of the workers at some positions. -/
def expectedAt (results : Nat → Except Error SocketAddress) (addresses : List WorkerAddress)
    (order : List Nat) : List Outcome :=
  order.filterMap ((expected (returning results) addresses)[·]?)

/-- The tasks at some positions have logged what came of their attempts, in the order of the
positions, and nothing else has been logged between the beginning and the end. -/
structure Told (results : Nat → Except Error SocketAddress) (addresses : List WorkerAddress)
    (opening : Record) (order : List Nat) (s : Schedule) : Prop where
  once : order.Nodup
  told : ∀ i, i ∈ order ↔ ∃ p, s.phases[i]? = some p ∧ p.hasTold = true
  log : s.log = opening :: (expectedAt results addresses order).map outcomeRecord ++
    (s.report.map closingRecord).toList

/-- A dispatcher that has returned has nothing left to do, and neither has any task. -/
theorem Sound.still {attempt : Nat → Ending} {r : Report}
    (sound : Sound concurrency attempt addresses s) (reported : s.report = some r) (m : Move) :
    s.step? attempt m = none := by
  have full := (sound.reported r reported).2
  rw [Option.eq_none_iff_forall_ne_some]
  intro t taken
  rcases step?_cases taken with
    ⟨i, address, p, q, -, worker, here, turn, -⟩ | ⟨address, ending, -, worker, -, -⟩ |
    ⟨-, running, -, -⟩
  · have inside := (List.getElem?_eq_some_iff.mp worker).1
    rw [sound.workers, ← full] at inside
    obtain ⟨ending, ended⟩ := sound.finished i inside
    rw [here] at ended
    cases ended
    cases turn.next
  · have inside := (List.getElem?_eq_some_iff.mp worker).1
    rw [sound.workers] at inside
    omega
  · rw [reported] at running
    cases running

section Turn

variable {i : Nat} {address : WorkerAddress} {p q : Phase}

/-- A task writes as it leaves a result of its attempt behind, and says then what is expected. -/
theorem Told.turn_attempted {result : Except Error SocketAddress}
    (told : Told results addresses opening order s)
    (sound : Sound concurrency (returning results) addresses s) (running : s.report = none)
    (worker : s.addresses[i]? = some address) (here : s.phases[i]? = some (.attempted result))
    (turn : Turn (returning results i) i (.attempted result) q s t)
    (log : t.log = s.log ++ (Phase.attempted result).records address) :
    Told results addresses opening (order ++ [i]) t := by
  have others := turn.exists_phase_iff here Phase.hasTold
  have written := told.log
  rw [running] at written
  have fresh : i ∉ order := by
    intro listed
    obtain ⟨p, there, already⟩ := (told.told i).mp listed
    rw [here] at there
    cases there
    cases already
  have own : returning results i = .returned result := sound.agrees i _ here
  have outcome : (expected (returning results) addresses)[i]? = some ⟨address, result⟩ := by
    rw [getElem?_expected, ← sound.workers, worker, own]
    rfl
  have next := turn.next
  cases next
  constructor
  case once =>
    refine List.nodup_append.mpr ⟨told.once, by simp, ?_⟩
    rintro a listed b member rfl
    exact fresh (List.mem_singleton.mp member ▸ listed)
  case told =>
    intro j
    rw [others, ← told.told j, List.mem_append, List.mem_singleton]
    by_cases mine : j = i
    · simp [mine, Phase.hasTold]
    · simp [mine]
  case log =>
    rw [log, written, turn.report, running]
    simp [expectedAt, outcome, outcomeRecord, Phase.records]

/-- In any other phase a task writes nothing. -/
theorem Told.turn_silent (told : Told results addresses opening order s)
    (running : s.report = none) (here : s.phases[i]? = some p)
    (turn : Turn (returning results i) i p q s t) (log : t.log = s.log ++ p.records address)
    (other : ∀ result, p ≠ .attempted result) : Told results addresses opening order t := by
  have others := turn.exists_phase_iff here Phase.hasTold
  have written := told.log
  rw [running] at written
  have silent : p.records address = [] := by
    cases p with
    | attempted result => exact absurd rfl (other result)
    | _ => rfl
  have same : q.hasTold = p.hasTold := by
    have next := turn.next
    cases p with
    | attempted result => exact absurd rfl (other result)
    | ended told => cases next
    | _ => cases next; rfl
  constructor
  case once => exact told.once
  case told =>
    intro j
    rw [others, ← told.told j, same]
    by_cases mine : j = i
    · subst mine
      simp [told.told j, here]
    · simp [mine]
  case log => rw [log, written, silent, turn.report, running, List.append_nil]

theorem Told.turn (told : Told results addresses opening order s)
    (sound : Sound concurrency (returning results) addresses s) (running : s.report = none)
    (worker : s.addresses[i]? = some address) (here : s.phases[i]? = some p)
    (turn : Turn (returning results i) i p q s t) (log : t.log = s.log ++ p.records address) :
    ∃ order', Told results addresses opening order' t := by
  by_cases writes : ∃ result, p = .attempted result
  · obtain ⟨result, rfl⟩ := writes
    exact ⟨order ++ [i], told.turn_attempted sound running worker here turn log⟩
  · have other : ∀ result, p ≠ .attempted result := fun result same => writes ⟨result, same⟩
    exact ⟨order, told.turn_silent running here turn log other⟩

end Turn

theorem Told.step {m : Move} (told : Told results addresses opening order s)
    (sound : Sound concurrency (returning results) addresses s)
    (taken : s.step? (returning results) m = some t) :
    ∃ order', Told results addresses opening order' t := by
  cases running : s.report with
  | some r =>
    rw [sound.still running m] at taken
    cases taken
  | none =>
    rcases step?_cases taken with
      ⟨i, address, p, q, -, worker, here, turn, log⟩ | ⟨address, ending, -, -, ended, rfl⟩ |
      ⟨-, -, full, rfl⟩
    · exact told.turn sound running worker here turn log
    · -- The attempt of a task that has ended came to a result, of which nothing more is said.
      have own : returning results s.outcomes.length = ending := sound.agrees _ _ ended
      subst own
      exact ⟨order, told.once, told.told, by simpa [joinRecords, returning] using told.log⟩
    · have written := told.log
      rw [running] at written
      exact ⟨order, told.once, told.told, by simp [written]⟩

theorem Told.run {ms : List Move} (told : Told results addresses opening order s)
    (sound : Sound concurrency (returning results) addresses s)
    (ran : s.run? (returning results) ms = some t) :
    ∃ order', Told results addresses opening order' t := by
  induction ms generalizing s order with
  | nil =>
    cases ran
    exact ⟨order, told⟩
  | cons m ms ih =>
    rw [run?_cons] at ran
    obtain ⟨u, taken, rest⟩ := Option.bind_eq_some_iff.mp ran
    obtain ⟨order', told'⟩ := told.step sound taken
    exact ih told' (sound.step taken) rest

/-- Only tasks that there are have written their records. -/
theorem Told.subperm (told : Told results addresses opening order s)
    (sound : Sound concurrency (returning results) addresses s) :
    (expectedAt results addresses order).Subperm (expected (returning results) addresses) := by
  have inside : order ⊆ List.range addresses.length := by
    intro i listed
    obtain ⟨p, here, -⟩ := (told.told i).mp listed
    rw [List.mem_range, ← sound.tasks]
    exact (List.getElem?_eq_some_iff.mp here).1
  obtain ⟨order', same, among⟩ := told.once.subperm inside
  have all := filterMap_range_getElem? (expected (returning results) addresses)
  have length : (expected (returning results) addresses).length = addresses.length := by
    simp [expected]
  rw [length] at all
  refine ⟨expectedAt results addresses order', same.filterMap _, ?_⟩
  have laid := among.filterMap ((expected (returning results) addresses)[·]?)
  rwa [all] at laid

/-- Once the dispatcher has returned, all of them have. -/
theorem Told.perm {r : Report} (told : Told results addresses opening order s)
    (sound : Sound concurrency (returning results) addresses s) (reported : s.report = some r) :
    (expectedAt results addresses order).Perm r.outcomes := by
  have length : (expected (returning results) addresses).length = addresses.length := by
    simp [expected]
  have each := (sound.perm_range reported told.once told.told fun _ => rfl).filterMap
    ((expected (returning results) addresses)[·]?)
  rw [← length, filterMap_range_getElem?] at each
  rw [(sound.reported r reported).1]
  exact each

end Schedule

/-! ## Main result -/

/-- A dispatch to somebody is told of from its beginning to its end: each outcome of its report
once, in some order, between a record of the one and a record of the other. -/
def Journal (config : Config) (report : Report) (log : List Record) : Prop :=
  ∃ opening records closing outcomes,
    log = opening :: records ++ [closing] ∧ Opens config report.length opening ∧
      outcomes.Perm report.outcomes ∧ List.Forall₂ TellsOf outcomes records ∧
      Closes report closing

/-- Some order of the turns of its tasks leads a dispatch to a state. -/
def Reached (config : Config) (network : String) (hostIds : List String)
    (results : Nat → Except Error SocketAddress) (t : Schedule) : Prop :=
  ∃ s ms, Schedule.start? config network hostIds = some s ∧
    s.run? (returning results) ms = some t

/-- What is logged of a dispatch, if the attempt at each position comes to a result. -/
structure Journaled (config : Config) (network : String) (hostIds : List String)
    (results : Nat → Except Error SocketAddress) : Prop where
  /-- Once the dispatcher has returned, every host id has its outcome, and every outcome its
  record. -/
  returned : hostIds ≠ [] → ∀ t r, Reached config network hostIds results t →
    t.report = some r →
    r.outcomes = hostIds.mapIdx (fun i id => ⟨⟨network, id⟩, results i⟩) ∧ Journal config r t.log
  /-- Before that, the dispatch has been opened, and some outcomes have their records. -/
  running : hostIds ≠ [] → ∀ t, Reached config network hostIds results t → t.report = none →
    ∃ opening records outcomes, t.log = opening :: records ∧
      Opens config hostIds.length opening ∧ List.Forall₂ TellsOf outcomes records ∧
      outcomes.Subperm (hostIds.mapIdx fun i id => ⟨⟨network, id⟩, results i⟩)
  /-- Where there is nobody to dispatch to, there is a warning and nothing else. -/
  nobody : hostIds = [] → ∀ t, Reached config network hostIds results t →
    t.report = some ⟨[]⟩ ∧ ∃ warning, t.log = [warning] ∧ warning.level = .warn ∧
      warning.text = "no worker addresses to dispatch to"
  /-- The dispatcher can return unless the gate for attempts cannot hold its limit. -/
  returns : (∃ t r, Reached config network hostIds results t ∧ t.report = some r) ↔
    hostIds = [] ∨ config.concurrency ≤ maxPermits
  /-- So it is logged if one attempt is made after the other. -/
  sequential : hostIds ≠ [] → ∀ n r, (dispatch n config network hostIds).report = some r →
    Journal config r (dispatch n config network hostIds).log

/-- A dispatch begins if there is nobody to dispatch to, or if its limit can be held. -/
theorem exists_start?_iff (config : Config) (network : String) (hostIds : List String) :
    (∃ s, Schedule.start? config network hostIds = some s) ↔
      hostIds = [] ∨ config.concurrency ≤ maxPermits := by
  cases hostIds with
  | nil => exact ⟨fun _ => .inl rfl, fun _ => ⟨_, rfl⟩⟩
  | cons id ids =>
    by_cases beyond : maxPermits < config.concurrency
    · simp [Schedule.start?, WorkerAddress.forHosts, beyond]
    · simp [Schedule.start?, WorkerAddress.forHosts, beyond, Nat.le_of_not_lt beyond]

section Reaching

variable {config : Config} {network : String} {hostIds : List String}
  {results : Nat → Except Error SocketAddress} {t : Schedule}

theorem Reached.sound (reached : Reached config network hostIds results t) :
    Schedule.Sound config.concurrency (returning results)
      (WorkerAddress.forHosts network hostIds) t := by
  obtain ⟨s, ms, begins, ran⟩ := reached
  exact ((Schedule.sound_of_start? _ begins).run ran).1

/-- Somebody is dispatched to: the opening record is followed by those of tasks. -/
theorem Reached.told (reached : Reached config network hostIds results t)
    (somebody : hostIds ≠ []) :
    ∃ order, Schedule.Told results (WorkerAddress.forHosts network hostIds)
      (openingRecord config hostIds.length) order t := by
  obtain ⟨s, ms, begins, ran⟩ := reached
  have sound := Schedule.sound_of_start? (returning results) begins
  obtain ⟨id, ids, rfl⟩ := List.exists_cons_of_ne_nil somebody
  cases Schedule.eq_of_start?_cons begins
  refine Schedule.Told.run (?_ : Schedule.Told _ _ _ [] _) sound ran
  refine ⟨List.nodup_nil, fun i => ?_, ?_⟩
  · constructor
    · intro never
      cases never
    · rintro ⟨p, here, told⟩
      rw [Schedule.waiting_of_start here] at told
      cases told
  · simp [Schedule.expectedAt, WorkerAddress.forHosts]

/-- A dispatch to nobody is over as it begins. -/
theorem Reached.eq_of_nobody (reached : Reached config network [] results t) :
    t = ⟨[], config.concurrency, [], [], [], [emptyRecord network], some ⟨[]⟩⟩ := by
  obtain ⟨s, ms, begins, ran⟩ := reached
  have sound := Schedule.sound_of_start? (returning results) begins
  cases begins
  cases ms with
  | nil =>
    cases ran
    rfl
  | cons m ms =>
    rw [Schedule.run?_cons, sound.still rfl m] at ran
    cases ran

/-- A dispatcher that makes one attempt after the other logs the outcomes in their order. -/
theorem dispatch_logged {n : Network} {r : Report} (somebody : hostIds ≠ [])
    (reported : (dispatch n config network hostIds).report = some r) :
    (dispatch n config network hostIds).log =
        openingRecord config hostIds.length :: r.outcomes.map outcomeRecord ++ [closingRecord r] ∧
      r.length = hostIds.length := by
  revert reported
  unfold dispatch
  dsimp only
  split
  case isTrue nobody =>
    exact absurd (List.map_eq_nil_iff.mp (List.isEmpty_iff.mp nobody)) somebody
  case isFalse =>
    split
    · intro reported
      cases reported
    · intro reported
      cases reported
      constructor
      · simp only [WorkerAddress.forHosts, List.length_map]
        rfl
      · simp [ReportOf.length, outcomes, WorkerAddress.forHosts]

end Reaching

/-- **Every outcome is told once.**  Whatever the attempts come to and in whatever order the
tasks take their turns, the log of a dispatch that has returned is a record of its beginning,
one record for each outcome of the report, and a record of its end with the counts of the
report. -/
theorem outcomes_told_once (config : Config) (network : String) (hostIds : List String)
    (results : Nat → Except Error SocketAddress) :
    Journaled config network hostIds results := by
  have due : expected (returning results) (WorkerAddress.forHosts network hostIds) =
      hostIds.mapIdx fun i id => ⟨⟨network, id⟩, results i⟩ := expected_forHosts _ _ _
  constructor
  case returned =>
    intro somebody t r reached reported
    obtain ⟨order, told⟩ := reached.told somebody
    have outcomes := (reached.sound.reported r reported).1
    rw [due] at outcomes
    refine ⟨outcomes, openingRecord config hostIds.length, _, closingRecord r, _, ?_, ?_,
      told.perm reached.sound reported, tellsOf_records _, closes_closingRecord r⟩
    · rw [told.log, reported]
      rfl
    · have length : r.length = hostIds.length := by
        rw [ReportOf.length, outcomes, List.length_mapIdx]
      rw [length]
      exact opens_openingRecord config hostIds.length
  case running =>
    intro somebody t reached running
    obtain ⟨order, told⟩ := reached.told somebody
    refine ⟨openingRecord config hostIds.length, _, _, ?_, opens_openingRecord _ _,
      tellsOf_records _, due ▸ told.subperm reached.sound⟩
    rw [told.log, running]
    exact List.append_nil _
  case nobody =>
    rintro rfl t reached
    rw [reached.eq_of_nobody]
    exact ⟨rfl, _, rfl, rfl, rfl⟩
  case returns =>
    rw [← exists_start?_iff config network]
    constructor
    · rintro ⟨t, r, ⟨s, ms, begins, -⟩, -⟩
      exact ⟨s, begins⟩
    · rintro ⟨s, begins⟩
      have sound := Schedule.sound_of_start? (returning results) begins
      obtain ⟨ms, t, r, ran, reported⟩ := sound.exists_report (Schedule.concurrency_pos config)
      exact ⟨t, r, ⟨s, ms, begins, ran⟩, reported⟩
  case sequential =>
    intro somebody n r reported
    refine ⟨openingRecord config hostIds.length, _, closingRecord r, r.outcomes, ?_, ?_, .refl _,
      tellsOf_records _, closes_closingRecord r⟩
    · exact (dispatch_logged somebody reported).1
    · rw [(dispatch_logged somebody reported).2]
      exact opens_openingRecord config hostIds.length

end StartSignal.Dispatch
