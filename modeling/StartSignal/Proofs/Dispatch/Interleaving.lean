/-
# StartSignal.Proofs.Dispatch.Interleaving -- every order of the attempts

As its books are in order (`Sound.run`), a dispatch never has more attempts under way
than its limit allows (`Sound.limited`), never gets stuck (`Sound.unstuck`,
`Sound.onward`), and reports what came of each task (`Sound.reports`).  Every move uses up
a turn (`turnsLeft_step`), so a dispatch that goes on as long as it can returns.

Main result: `every_order`.
-/
import StartSignal.Proofs.Dispatch.Books

namespace StartSignal.Dispatch

namespace Schedule

variable {concurrency : Nat} {attempt : Nat → Ending} {addresses : List WorkerAddress}
  {s t : Schedule}

/-! ## Nothing gets stuck -/

theorem concurrency_pos (config : Config) : 0 < config.concurrency :=
  Nat.lt_of_lt_of_le Nat.zero_lt_one (Nat.le_max_right _ _)

/-- A task that holds a permit can go on, and so can any while a permit is free. -/
theorem Sound.advances {i : Nat} {p : Phase} (sound : Sound concurrency attempt addresses s)
    (here : s.phases[i]? = some p) (going : p.isEnded = false)
    (permitted : p.holdsPermit = true ∨ 0 < s.permits) :
    (s.step? attempt (.advance i)).isSome = true := by
  have inside : i < s.addresses.length := by
    rw [sound.workers, ← sound.tasks]
    exact (List.getElem?_eq_some_iff.mp here).1
  simp only [step?, here, List.getElem?_eq_getElem inside]
  exact advance?_isSome going permitted

/-- While a task is not over, some task can go on. -/
theorem Sound.unstuck {i : Nat} {p : Phase} (sound : Sound concurrency attempt addresses s)
    (positive : 0 < concurrency) (here : s.phases[i]? = some p) (going : p.isEnded = false) :
    ∃ j, (s.step? attempt (.advance j)).isSome = true := by
  by_cases held : ∃ q ∈ s.phases, q.holdsPermit = true
  · obtain ⟨q, member, holds⟩ := held
    obtain ⟨j, there⟩ := List.mem_iff_getElem?.mp member
    have going' : q.isEnded = false := by
      cases q <;> first | rfl | cases holds
    exact ⟨j, sound.advances there going' (.inl holds)⟩
  · -- All permits are free, so the task that is not over can have one.
    have nobody : s.phases.countP Phase.holdsPermit = 0 := by
      rw [List.countP_eq_zero]
      intro q member holds
      exact held ⟨q, member, holds⟩
    have all := sound.permits
    exact ⟨i, sound.advances here going (.inr (by omega))⟩

/-- Until the dispatcher has returned, something can be done. -/
theorem Sound.onward (sound : Sound concurrency attempt addresses s)
    (positive : 0 < concurrency) (running : s.report = none) :
    ∃ m, (s.step? attempt m).isSome = true := by
  by_cases unended : ∃ p ∈ s.phases, p.isEnded = false
  · obtain ⟨p, member, going⟩ := unended
    obtain ⟨i, here⟩ := List.mem_iff_getElem?.mp member
    obtain ⟨j, advances⟩ := sound.unstuck positive here going
    exact ⟨.advance j, advances⟩
  · rcases Nat.lt_or_ge s.outcomes.length s.addresses.length with early | late
    · have inside : s.outcomes.length < s.phases.length := by
        rw [sound.tasks, ← sound.workers]
        exact early
      refine ⟨.join, ?_⟩
      have here := List.getElem?_eq_getElem inside
      cases phase : s.phases[s.outcomes.length] with
      | ended ending =>
        rw [phase] at here
        simp [step?, here, List.getElem?_eq_getElem early]
      | _ =>
        have member := List.getElem_mem inside
        exact absurd ⟨_, member, by rw [phase]; rfl⟩ unended
    · have most : s.outcomes.length ≤ addresses.length := by
        have length := congrArg List.length sound.joined
        have full : (expected attempt addresses).length = addresses.length := by simp [expected]
        rw [List.length_take, full] at length
        omega
      rw [← sound.workers] at most
      have full : s.outcomes.length = s.addresses.length := Nat.le_antisymm most late
      exact ⟨.close, by simp [step?, running, full]⟩

/-- The most moves that a dispatch still needs. -/
def turnsLeft (s : Schedule) : Nat :=
  (s.phases.map Phase.turnsLeft).sum + (s.addresses.length - s.outcomes.length) +
    s.report.isNone.toNat

theorem turnsLeft_step {m : Move} (taken : s.step? attempt m = some t) :
    t.turnsLeft < s.turnsLeft := by
  unfold turnsLeft
  rcases step?_cases taken with
    ⟨i, address, p, q, -, -, here, turn, -⟩ | ⟨address, ending, -, worker, -, rfl⟩ |
    ⟨-, running, -, rfl⟩
  · have moved := sum_map_set Phase.turnsLeft here q
    have fewer := Phase.turnsLeft_next turn.next
    rw [turn.phases, turn.addresses, turn.outcomes, turn.report]
    omega
  · have inside := (List.getElem?_eq_some_iff.mp worker).1
    simp only [List.length_append, List.length_singleton]
    omega
  · simp [running]

theorem Sound.turnsLeft_le (sound : Sound concurrency attempt addresses s) :
    s.turnsLeft ≤ 6 * addresses.length + 1 := by
  have turns := sum_map_le Phase.turnsLeft_le s.phases
  rw [sound.tasks] at turns
  have joins : s.addresses.length - s.outcomes.length ≤ addresses.length := by
    rw [sound.workers]
    exact Nat.sub_le _ _
  have returns := s.report.isNone.toNat_le
  unfold turnsLeft
  omega

/-! ## Every order -/

theorem run?_cons (attempt : Nat → Ending) (s : Schedule) (m : Move) (ms : List Move) :
    run? attempt s (m :: ms) = (s.step? attempt m).bind fun t => run? attempt t ms := rfl

/-- Every order of moves keeps the books, and no order goes on for ever. -/
theorem Sound.run {ms : List Move} (sound : Sound concurrency attempt addresses s)
    (ran : s.run? attempt ms = some t) :
    Sound concurrency attempt addresses t ∧ ms.length + t.turnsLeft ≤ s.turnsLeft := by
  induction ms generalizing s with
  | nil =>
    cases ran
    exact ⟨sound, by simp⟩
  | cons m ms ih =>
    rw [run?_cons] at ran
    cases taken : s.step? attempt m with
    | none => rw [taken] at ran; cases ran
    | some u =>
      rw [taken] at ran
      obtain ⟨sound', bound⟩ := ih (sound.step taken) ran
      have fewer := turnsLeft_step taken
      refine ⟨sound', ?_⟩
      rw [List.length_cons]
      omega

theorem Sound.limited (sound : Sound concurrency attempt addresses s) :
    s.underWay ≤ concurrency := by
  have fewer : s.underWay ≤ s.phases.countP Phase.holdsPermit :=
    List.countP_mono_left fun p _ => p.holdsPermit_of_isAttempting
  have all := sound.permits
  omega

/-- What a report tells of a dispatch that has returned. -/
structure Reports (config : Config) (network : String) (hostIds : List String)
    (attempt : Nat → Ending) (s : Schedule) (r : Report) : Prop where
  /-- There is one outcome for each host id, in their order: that of its own task. -/
  outcomes : r.outcomes = hostIds.mapIdx fun i id =>
    ⟨⟨network, id⟩, (attempt i).result ⟨network, id⟩⟩
  /-- Every position has been attempted once. -/
  attempted : s.begun.Perm (List.range hostIds.length)
  /-- An error names the host of its worker, if the task panicked or its attempt came to
  what a delivery comes to. -/
  named : ∀ i o e, r.outcomes[i]? = some o → o.result = .error e →
    (∀ result, attempt i = .returned result →
      ∃ n, result = (deliver n config o.address).result) →
    e.host? = some o.address.host
  /-- It is the report of a dispatcher that makes one attempt after the other. -/
  sequential : ∀ n, (∀ i id, hostIds[i]? = some id →
    attempt i = .returned (deliver n config ⟨network, id⟩).result) →
    (dispatch n config network hostIds).report = some r

theorem filterMap_range_getElem? {α : Type} (l : List α) :
    (List.range l.length).filterMap (l[·]?) = l := by
  have positions : (List.range l.length).map (l[·]?) = l.map some := by
    apply List.ext_getElem
    · simp
    · intro i inside _
      simp at inside
      simp [inside]
  have found := congrArg (List.filterMap id) positions
  rw [List.filterMap_map, List.filterMap_map] at found
  exact found.trans List.filterMap_some

/-- Once the dispatcher has returned, the tasks that have ended are those of all positions. -/
theorem Sound.perm_range {r : Report} (sound : Sound concurrency attempt addresses s)
    (reported : s.report = some r) {positions : List Nat} {test : Phase → Bool}
    (once : positions.Nodup)
    (listed : ∀ i, i ∈ positions ↔ ∃ p, s.phases[i]? = some p ∧ test p = true)
    (passes : ∀ ending, test (.ended ending) = true) :
    positions.Perm (List.range addresses.length) := by
  rw [List.perm_ext_iff_of_nodup once List.nodup_range]
  intro i
  rw [listed i, List.mem_range]
  constructor
  · rintro ⟨p, here, -⟩
    rw [← sound.tasks]
    exact (List.getElem?_eq_some_iff.mp here).1
  · intro inside
    rw [← (sound.reported r reported).2] at inside
    obtain ⟨ending, ended⟩ := sound.finished i inside
    exact ⟨.ended ending, ended, passes ending⟩

/-- Once the dispatcher has returned, every task has made its attempt. -/
theorem Sound.attempted {r : Report} (sound : Sound concurrency attempt addresses s)
    (reported : s.report = some r) : s.begun.Perm (List.range addresses.length) :=
  sound.perm_range reported sound.once sound.begun fun _ => rfl

theorem Sound.reports {config : Config} {network : String} {hostIds : List String} {r : Report}
    (held : config.concurrency ≤ maxPermits)
    (sound : Sound config.concurrency attempt (WorkerAddress.forHosts network hostIds) s)
    (reported : s.report = some r) : Reports config network hostIds attempt s r := by
  have outcomes := (sound.reported r reported).1
  have workers : (WorkerAddress.forHosts network hostIds).length = hostIds.length := by
    simp [WorkerAddress.forHosts]
  constructor
  case outcomes => rw [outcomes, expected_forHosts]
  case attempted =>
    rw [← workers]
    exact sound.attempted reported
  case named =>
    intro i o e here failed delivered
    rw [outcomes, getElem?_expected] at here
    obtain ⟨address, -, rfl⟩ := Option.map_eq_some_iff.mp here
    exact Ending.result_names delivered failed
  case sequential =>
    intro n delivered
    rw [dispatch_expected delivered held, ← outcomes]

/-- What holds of a dispatch whatever its tasks have done so far. -/
structure Orderly (config : Config) (network : String) (hostIds : List String)
    (attempt : Nat → Ending) (s : Schedule) : Prop where
  /-- No more attempts are under way than the limit allows. -/
  limited : s.underWay ≤ max config.maxConcurrency.toNat 1
  /-- No position is attempted twice. -/
  once : s.begun.Nodup
  /-- A task that holds a permit can go on. -/
  holder : ∀ (i : Nat) (p : Phase), s.phases[i]? = some p → p.holdsPermit = true →
    (s.step? attempt (.advance i)).isSome = true
  /-- While a task is not over, some task can go on. -/
  unstuck : ∀ (i : Nat) (p : Phase), s.phases[i]? = some p → p.isEnded = false →
    ∃ j, (s.step? attempt (.advance j)).isSome = true
  /-- Until the dispatcher has returned, something can be done. -/
  onward : s.report = none → ∃ m, (s.step? attempt m).isSome = true
  reports : ∀ r, s.report = some r → Reports config network hostIds attempt s r

/-- **A dispatch is orderly in every order of its tasks.**  Whatever the attempts come to, a
dispatch whose limit can be held keeps to the limit, attempts no position twice, never gets
stuck, and reports one outcome for each host id.  It returns after at most six moves for each
host id and one more. -/
theorem every_order (config : Config) (network : String) (hostIds : List String)
    (attempt : Nat → Ending) (held : config.concurrency ≤ maxPermits) :
    ∃ s, start? config network hostIds = some s ∧
      ∀ ms t, s.run? attempt ms = some t →
        Orderly config network hostIds attempt t ∧ ms.length ≤ 6 * hostIds.length + 1 := by
  obtain ⟨s, begins, sound⟩ := start?_sound config network hostIds attempt held
  refine ⟨s, begins, fun ms t ran => ?_⟩
  obtain ⟨sound', bound⟩ := sound.run ran
  have positive := concurrency_pos config
  constructor
  · constructor
    case limited => exact sound'.limited
    case once => exact sound'.once
    case holder =>
      intro i p here holds
      have going : p.isEnded = false := by
        cases p <;> first | rfl | cases holds
      exact sound'.advances here going (.inl holds)
    case unstuck => exact fun i p here going => sound'.unstuck positive here going
    case onward => exact sound'.onward positive
    case reports => exact fun r reported => sound'.reports held reported
  · have most := sound.turnsLeft_le
    have workers : (WorkerAddress.forHosts network hostIds).length = hostIds.length := by
      simp [WorkerAddress.forHosts]
    omega

/-- Two tasks for one host share one permit: the second goes first, the first panics, and
the dispatcher returns. -/
theorem every_order_shared_permit :
    ∃ s t, start? ⟨7, 0, none⟩ "10" ["1", "1"] = some s ∧
      s.run? (fun i => if i = 0 then .panicked "stopped" else .returned (.error (.unresolvable "10.1")))
        (List.replicate 5 (.advance 1) ++ List.replicate 4 (.advance 0) ++
          [.join, .join, .close]) = some t ∧
      t.report.map (fun r => r.outcomes.length) = some 2 ∧
      Orderly ⟨7, 0, none⟩ "10" ["1", "1"]
        (fun i => if i = 0 then .panicked "stopped" else .returned (.error (.unresolvable "10.1")))
        t := by
  obtain ⟨s, begins, all⟩ := every_order ⟨7, 0, none⟩ "10" ["1", "1"]
    (fun i => if i = 0 then .panicked "stopped" else .returned (.error (.unresolvable "10.1")))
    (by decide)
  have ran : (s.run?
      (fun i => if i = 0 then .panicked "stopped" else .returned (.error (.unresolvable "10.1")))
      (List.replicate 5 (.advance 1) ++ List.replicate 4 (.advance 0) ++
        [.join, .join, .close])).map (fun t => t.report.map fun r => r.outcomes.length) =
      some (some 2) := by
    cases begins
    rfl
  obtain ⟨t, reached, reported⟩ := Option.map_eq_some_iff.mp ran
  exact ⟨s, t, begins, reached, reported, (all _ t reached).1⟩

end Schedule

end StartSignal.Dispatch
