/-
# StartSignal.Proofs.Dispatch.Books -- what a dispatch keeps account of

Whatever order the host chooses, a dispatch keeps its books (`Sound`): permits that are
free and permits that are held make up the limit, a position is entered as begun when its
task goes from its permit to its attempt, and the outcomes joined so far are those of the
first tasks, which are over.  They are in order at the beginning (`start?_sound`), and
every move keeps them so (`Sound.step`).
-/
import StartSignal.Proofs.Dispatch.Outcomes
import StartSignal.Proofs.Dispatch.Turn

namespace StartSignal.Dispatch

namespace Schedule

/-- The books of a dispatch. -/
structure Sound (concurrency : Nat) (attempt : Nat → Ending) (addresses : List WorkerAddress)
    (s : Schedule) : Prop where
  workers : s.addresses = addresses
  tasks : s.phases.length = addresses.length
  permits : s.permits + s.phases.countP Phase.holdsPermit = concurrency
  agrees : ∀ i (p : Phase), s.phases[i]? = some p → p.Agrees (attempt i)
  once : s.begun.Nodup
  begun : ∀ i, i ∈ s.begun ↔ ∃ p, s.phases[i]? = some p ∧ p.hasBegun = true
  joined : s.outcomes = (expected attempt addresses).take s.outcomes.length
  finished : ∀ i < s.outcomes.length, ∃ ending, s.phases[i]? = some (.ended ending)
  reported : ∀ r, s.report = some r →
    r.outcomes = expected attempt addresses ∧ s.outcomes.length = addresses.length

variable {concurrency : Nat} {attempt : Nat → Ending} {addresses : List WorkerAddress}
  {s t : Schedule}

/-! ## The beginning -/

/-- A task of a dispatch that has done nothing yet waits. -/
theorem waiting_of_start {i : Nat} {p : Phase}
    (here : (addresses.map fun _ => Phase.waiting)[i]? = some p) : p = .waiting := by
  rw [List.getElem?_map] at here
  obtain ⟨_, -, rfl⟩ := Option.map_eq_some_iff.mp here
  rfl

theorem sound_waiting (concurrency : Nat) (attempt : Nat → Ending)
    (addresses : List WorkerAddress) (log : List Log.Record) :
    Sound concurrency attempt addresses
      ⟨addresses, concurrency, addresses.map fun _ => .waiting, [], [], log, none⟩ where
  workers := rfl
  tasks := List.length_map _
  permits := by
    have nobody : (addresses.map fun _ => Phase.waiting).countP Phase.holdsPermit = 0 := by
      rw [List.countP_eq_zero]
      intro p member
      obtain ⟨_, -, rfl⟩ := List.mem_map.mp member
      simp [Phase.holdsPermit]
    show concurrency + _ = concurrency
    rw [nobody, Nat.add_zero]
  agrees := by
    intro i p here
    rw [waiting_of_start here]
    trivial
  once := List.nodup_nil
  begun := by
    intro i
    constructor
    · intro never
      cases never
    · rintro ⟨p, here, begun⟩
      rw [waiting_of_start here] at begun
      cases begun
  joined := rfl
  finished := by
    intro i early
    cases early
  reported := by
    intro r reported
    cases reported

/-- A dispatch to somebody begins with every task waiting. -/
theorem eq_of_start?_cons {config : Config} {network id : String} {ids : List String}
    (begins : start? config network (id :: ids) = some s) :
    s = ⟨WorkerAddress.forHosts network (id :: ids), config.concurrency,
      (WorkerAddress.forHosts network (id :: ids)).map fun _ => .waiting, [], [],
      [openingRecord config (WorkerAddress.forHosts network (id :: ids)).length], none⟩ := by
  have guarded : start? config network (id :: ids) =
      if maxPermits < config.concurrency then none else some _ := rfl
  rw [guarded] at begins
  split at begins
  · cases begins
  · cases begins
    rfl

/-- A dispatch that begins does so with its books in order. -/
theorem sound_of_start? {config : Config} {network : String} {hostIds : List String}
    (attempt : Nat → Ending) (begins : start? config network hostIds = some s) :
    Sound config.concurrency attempt (WorkerAddress.forHosts network hostIds) s := by
  cases hostIds with
  | nil =>
    cases begins
    have sound := sound_waiting config.concurrency attempt [] [emptyRecord network]
    refine { sound with reported := ?_ }
    intro r reported
    cases reported
    exact ⟨rfl, rfl⟩
  | cons id ids =>
    rw [eq_of_start?_cons begins]
    exact sound_waiting config.concurrency attempt _ _

/-- A dispatch whose limit can be held begins, with its books in order. -/
theorem start?_sound (config : Config) (network : String) (hostIds : List String)
    (attempt : Nat → Ending) (held : config.concurrency ≤ maxPermits) :
    ∃ s, start? config network hostIds = some s ∧
      Sound config.concurrency attempt (WorkerAddress.forHosts network hostIds) s := by
  have begins : (start? config network hostIds).isSome = true := by
    cases hostIds with
    | nil => rfl
    | cons id ids =>
      have within : ¬ maxPermits < config.concurrency := Nat.not_lt.mpr held
      simp [start?, WorkerAddress.forHosts, within]
  obtain ⟨s, begins⟩ := Option.isSome_iff_exists.mp begins
  exact ⟨s, begins, sound_of_start? attempt begins⟩

/-! ## One move -/

theorem getElem?_set_iff {phases : List Phase} {i j : Nat} {p q r : Phase}
    (here : phases[i]? = some p) :
    (phases.set i q)[j]? = some r ↔ (j = i ∧ r = q) ∨ (j ≠ i ∧ phases[j]? = some r) := by
  by_cases same : j = i
  · subst same
    simp [List.getElem?_set_self', here, eq_comm]
  · simp [List.getElem?_set_ne (Ne.symm same), same]

/-- Where tasks are told apart by a test of their phases, a turn matters to its own task only. -/
theorem Turn.exists_phase_iff {ending : Ending} {i : Nat} {p q : Phase}
    (turn : Turn ending i p q s t) (here : s.phases[i]? = some p) (test : Phase → Bool) (j : Nat) :
    (∃ r, t.phases[j]? = some r ∧ test r = true) ↔
      (j = i ∧ test q = true) ∨ (j ≠ i ∧ ∃ r, s.phases[j]? = some r ∧ test r = true) := by
  simp only [turn.phases, getElem?_set_iff here]
  constructor
  · rintro ⟨r, ⟨rfl, rfl⟩ | ⟨other, there⟩, passes⟩
    · exact .inl ⟨rfl, passes⟩
    · exact .inr ⟨other, r, there, passes⟩
  · rintro (⟨rfl, passes⟩ | ⟨other, r, there, passes⟩)
    · exact ⟨q, .inl ⟨rfl, rfl⟩, passes⟩
    · exact ⟨r, .inr ⟨other, there⟩, passes⟩

/-- A turn begins at most the attempt of its own task, and that only once. -/
theorem Sound.turn_begun {i : Nat} {p q : Phase} (sound : Sound concurrency attempt addresses s)
    (here : s.phases[i]? = some p) (turn : Turn (attempt i) i p q s t) :
    t.begun.Nodup ∧ ∀ j, j ∈ t.begun ↔ ∃ r, t.phases[j]? = some r ∧ r.hasBegun = true := by
  have fresh : p.hasBegun = false → i ∉ s.begun := by
    intro unbegun listed
    obtain ⟨p', here', begun⟩ := (sound.begun i).mp listed
    rw [here] at here'
    cases here'
    rw [unbegun] at begun
    cases begun
  have others : ∀ j, (∃ r, t.phases[j]? = some r ∧ r.hasBegun = true) ↔
      (j = i ∧ q.hasBegun = true) ∨ (j ≠ i ∧ j ∈ s.begun) := by
    intro j
    rw [turn.exists_phase_iff here, ← sound.begun j]
  -- Only the turn from the permit to the attempt adds to what has been begun.
  by_cases same : p.hasBegun = q.hasBegun
  · rw [turn.begun, if_pos same]
    refine ⟨sound.once, fun j => ?_⟩
    rw [others, ← same]
    by_cases mine : j = i
    · subst mine
      simp [sound.begun j, here]
    · simp [mine]
  · have unbegun : p.hasBegun = false := by
      cases begun : p.hasBegun with
      | false => rfl
      | true => exact absurd (begun.trans (Phase.hasBegun_next turn.next begun).symm) same
    have begun : q.hasBegun = true := by
      cases begun : q.hasBegun with
      | true => rfl
      | false => exact absurd (unbegun.trans begun.symm) same
    rw [turn.begun, if_neg same]
    refine ⟨List.nodup_cons.mpr ⟨fresh unbegun, sound.once⟩, fun j => ?_⟩
    rw [others, List.mem_cons]
    by_cases mine : j = i
    · simp [mine, begun]
    · simp [mine]

theorem Sound.turn {i : Nat} {p q : Phase} (sound : Sound concurrency attempt addresses s)
    (here : s.phases[i]? = some p) (turn : Turn (attempt i) i p q s t) :
    Sound concurrency attempt addresses t where
  workers := turn.addresses.trans sound.workers
  tasks := by rw [turn.phases, List.length_set, sound.tasks]
  permits := by
    have held := sum_map_set (fun p => p.holdsPermit.toNat) here q
    have before := sound.permits
    have moved := turn.permits
    rw [countP_eq_sum] at before ⊢
    rw [turn.phases]
    omega
  agrees := by
    intro j r there
    rw [turn.phases] at there
    rcases (getElem?_set_iff here).mp there with ⟨rfl, rfl⟩ | ⟨-, there⟩
    · exact (sound.agrees j p here).next turn.next
    · exact sound.agrees j r there
  once := (sound.turn_begun here turn).1
  begun := (sound.turn_begun here turn).2
  joined := by
    rw [turn.outcomes]
    exact sound.joined
  finished := by
    intro j early
    rw [turn.outcomes] at early
    obtain ⟨ending, ended⟩ := sound.finished j early
    have other : j ≠ i := by
      rintro rfl
      rw [ended] at here
      cases here
      cases turn.next
    refine ⟨ending, ?_⟩
    rw [turn.phases, List.getElem?_set_ne (Ne.symm other), ended]
  reported := by
    rw [turn.report, turn.outcomes]
    exact sound.reported

theorem Sound.join {i : Nat} {address : WorkerAddress} {ending : Ending}
    (sound : Sound concurrency attempt addresses s) (next : i = s.outcomes.length)
    (worker : s.addresses[i]? = some address) (ended : s.phases[i]? = some (.ended ending)) :
    Sound concurrency attempt addresses { s with
      outcomes := s.outcomes ++ [⟨address, ending.result address⟩]
      log := s.log ++ joinRecords address ending } where
  workers := sound.workers
  tasks := sound.tasks
  permits := sound.permits
  agrees := sound.agrees
  once := sound.once
  begun := sound.begun
  joined := by
    subst next
    have own : attempt s.outcomes.length = ending := sound.agrees _ _ ended
    rw [sound.workers] at worker
    show s.outcomes ++ _ = List.take (s.outcomes ++ _).length _
    rw [List.length_append, List.length_singleton, List.take_add_one, ← sound.joined,
      getElem?_expected, worker, own]
    rfl
  finished := by
    intro j early
    rw [List.length_append, List.length_singleton] at early
    rcases Nat.lt_succ_iff_lt_or_eq.mp early with before | rfl
    · exact sound.finished j before
    · exact ⟨ending, next ▸ ended⟩
  reported := by
    intro r reported
    have full := (sound.reported r reported).2
    have inside := (List.getElem?_eq_some_iff.mp ended).1
    rw [sound.tasks] at inside
    omega

theorem Sound.close (sound : Sound concurrency attempt addresses s)
    (full : s.outcomes.length = s.addresses.length) :
    Sound concurrency attempt addresses { s with
      report := some ⟨s.outcomes⟩, log := s.log ++ [closingRecord ⟨s.outcomes⟩] } where
  workers := sound.workers
  tasks := sound.tasks
  permits := sound.permits
  agrees := sound.agrees
  once := sound.once
  begun := sound.begun
  joined := sound.joined
  finished := sound.finished
  reported := by
    intro r reported
    cases reported
    have length : (expected attempt addresses).length = s.outcomes.length := by
      rw [full, sound.workers]
      simp [expected]
    refine ⟨?_, full.trans (congrArg List.length sound.workers)⟩
    rw [sound.joined, ← length, List.take_length]

/-- What a move does: a task takes its turn, or the dispatcher joins the next task or
returns. -/
theorem step?_cases {m : Move} (taken : s.step? attempt m = some t) :
    (∃ i address p q, m = .advance i ∧ s.addresses[i]? = some address ∧ s.phases[i]? = some p ∧
        Turn (attempt i) i p q s t ∧ t.log = s.log ++ p.records address) ∨
      (∃ address ending, m = .join ∧ s.addresses[s.outcomes.length]? = some address ∧
        s.phases[s.outcomes.length]? = some (.ended ending) ∧
        t = { s with
          outcomes := s.outcomes ++ [⟨address, ending.result address⟩]
          log := s.log ++ joinRecords address ending }) ∨
      (m = .close ∧ s.report = none ∧ s.outcomes.length = s.addresses.length ∧
        t = { s with
          report := some ⟨s.outcomes⟩, log := s.log ++ [closingRecord ⟨s.outcomes⟩] }) := by
  cases m with
  | advance i =>
    simp only [step?] at taken
    split at taken
    · rename_i address p worker here
      obtain ⟨q, turn⟩ := turn_of_advance? taken
      exact .inl ⟨i, address, p, q, rfl, worker, here, turn, log_advance? taken⟩
    · cases taken
  | join =>
    simp only [step?] at taken
    split at taken
    · rename_i address ending worker ended
      cases taken
      exact .inr (.inl ⟨address, ending, rfl, worker, ended, rfl⟩)
    · cases taken
  | close =>
    simp only [step?] at taken
    split at taken
    · rename_i may
      cases taken
      exact .inr (.inr ⟨rfl, by simpa using may.1, may.2, rfl⟩)
    · cases taken

theorem Sound.step {m : Move} (sound : Sound concurrency attempt addresses s)
    (taken : s.step? attempt m = some t) : Sound concurrency attempt addresses t := by
  rcases step?_cases taken with
    ⟨i, address, p, q, -, -, here, turn, -⟩ | ⟨address, ending, -, worker, ended, rfl⟩ |
    ⟨-, -, full, rfl⟩
  · exact sound.turn here turn
  · exact sound.join rfl worker ended
  · exact sound.close full

end Schedule

end StartSignal.Dispatch
