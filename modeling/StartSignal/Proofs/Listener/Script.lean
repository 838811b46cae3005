/-
# StartSignal.Proofs.Listener.Script -- the stages of a scripted session

Whatever a script has played so far, its session is in one of three stages (`Stage`): it
waits for its controller, it reads what the controller says, or it is over.  Every step
keeps it in them (`stage_step`), and so does every script (`stage_steps`).  In all of them
the session is over exactly when its state is terminal (`Stage.isTerminal_eq`).

A session that is over has timed out exactly when the timeout passed before anything else
did (`Idle`).  So a whole script ends in a timeout exactly then (`play_timedOut_iff`).
-/
import StartSignal.Listener.Rehearsal
import StartSignal.Proofs.Listener.Refinement

namespace StartSignal.Listener

open Log

/-! ## What times out -/

theorem Read.leadsTo_ne_timedOut (noise ceiling : UInt32) (r : Read) :
    r.leadsTo noise ceiling ≠ .timedOut := by
  rcases r with _ | (t | _ | _)
  case received.text =>
    show State.afterMessage noise (.decode t) ceiling ≠ .timedOut
    unfold State.afterMessage
    split
    · simp
    · split <;> simp
  all_goals simp [leadsTo]

namespace Session

/-- A session that has a controller times out no more. -/
theorem state_follow_ne_timedOut (reads : List Read) {s : Session} (settled : Settled s)
    (other : s.state ≠ .timedOut) : (s.follow reads).state ≠ .timedOut := by
  induction reads generalizing s with
  | nil =>
    rw [settled.follow_nil]
    exact other
  | cons r reads ih =>
    rw [follow_cons]
    apply ih (settled.read r)
    rcases settled.standing with ⟨going, -, noise, reading⟩ | ⟨o, ended, -, -⟩
    · rw [state_follow_one going reading]
      exact r.leadsTo_ne_timedOut noise s.config.ceiling
    · rw [follow_ended (by simp [ended])]
      exact other

theorem Settled.ne_timedOut {s : Session} (settled : Settled s) (other : s.state ≠ .timedOut) :
    s.ending ≠ some (.ok .timedOut) := by
  intro ended
  have outcome := settled.outcome ended
  cases state : s.state with
  | timedOut => exact other state
  | _ => rw [state] at outcome; cases outcome

/-- A session times out exactly when its wait for a controller ends with the idle timeout. -/
theorem run_timedOut_iff (config : Config) (address : SocketAddress) (wait : Wait)
    (reads : List Read) :
    ((fresh config address).run wait reads).ending = some (.ok .timedOut) ↔ wait = .elapsed := by
  cases wait with
  | cancelled =>
    unfold run
    rw [follow_ended rfl]
    constructor
    · intro ended
      cases ended
    · intro same
      cases same
  | elapsed =>
    unfold run
    rw [follow_ended rfl]
    exact ⟨fun _ => rfl, fun _ => rfl⟩
  | failed e => simp [run_failed]
  | connected peer =>
    have connected := settled_connect config address peer
    have other := state_follow_ne_timedOut reads connected (by simp [connect_fresh])
    have late := (settled_follow reads connected).ne_timedOut other
    constructor
    · intro ended
      exact absurd ended late
    · intro same
      cases same

end Session

namespace Rehearsal

/-! ## Stages -/

/-- The idle timeout has passed, and nothing else that ends the wait for a controller has
happened. -/
def Idle (r : Rehearsal) : Prop :=
  r.expired = true ∧ r.connected = false ∧ r.cancelled = false

theorem wait?_elapsed_iff (r : Rehearsal) : r.wait? = some .elapsed ↔ r.Idle := by
  unfold wait? Idle
  cases r.cancelled <;> cases r.connected <;> cases r.expired <;> simp

theorem wait?_ne_failed (r : Rehearsal) (e : IoError) : r.wait? ≠ some (.failed e) := by
  unfold wait?
  cases r.cancelled <;> cases r.connected <;> cases r.expired <;> simp

theorem connected_of_wait? {r : Rehearsal} {peer : SocketAddress}
    (wait : r.wait? = some (.connected peer)) : r.connected = true := by
  unfold wait? at wait
  revert wait
  cases r.cancelled <;> cases r.connected <;> cases r.expired <;> simp

/-- Where the session of a rehearsal stands. -/
inductive Stage (config : Config) (address : SocketAddress) (r : Rehearsal) : Prop where
  /-- It has met nobody. -/
  | waiting (same : r.session = .fresh config address)
  /-- It reads what its controller says. -/
  | reading (running : r.running = true) (connected : r.connected = true)
      (settled : r.session.Settled) (going : r.session.ending = none)
  /-- It is over. -/
  | finished (o : Outcome) (settled : r.session.Settled) (ended : r.session.ending = some (.ok o))
      (idle : o = .timedOut ↔ r.Idle)

variable {config : Config} {address : SocketAddress} {r : Rehearsal}

theorem stage_start (config : Config) (address : SocketAddress) (route : Route)
    (controller : SocketAddress) :
    Stage config address (start (.fresh config address) route controller) :=
  .waiting rfl

/-- A session is over exactly when its state is terminal. -/
theorem Stage.isTerminal_eq (stage : Stage config address r) :
    r.session.state.isTerminal = r.isOver := by
  cases stage with
  | waiting same => rw [isOver, same]; rfl
  | reading _ _ settled going =>
    obtain ⟨noise, reading⟩ := settled.reading going
    simp [isOver, reading, going]
  | finished o settled ended _ =>
    rw [State.isTerminal_of_outcome (settled.outcome ended)]
    simp [isOver, ended]

/-- A step has been taken, and the session knows nothing of it yet. -/
structure Told (s : Step) (r t : Rehearsal) : Prop where
  session : t.session = r.session
  route : t.route = r.route
  running : t.running = (r.running || decide (s = .run))
  cancelled : t.cancelled = (r.cancelled || decide (s = .cancel))
  connected : r.connected = true → t.connected = true

theorem Stage.told {s : Step} {t : Rehearsal} (stage : Stage config address r)
    (under : r.isOver = false) (told : Told s r t) : Stage config address t := by
  cases stage with
  | waiting same => exact .waiting (told.session.trans same)
  | reading running connected settled going =>
    rw [← told.session] at settled going
    exact .reading (by simp [told.running, running]) (told.connected connected) settled going
  | finished o _ ended _ => simp [isOver, ended] at under

/-- A running session that waits takes in what ends its wait. -/
theorem settle_waiting {wait : Wait} (running : r.running = true)
    (same : r.session = .fresh config address)
    (ends : r.wait? = some wait) :
    r.settle.session = (Session.fresh config address).run wait r.reads := by
  have state : r.session.state = .awaitingConnection := by rw [same]; rfl
  have under : r.isOver = false := by rw [isOver, same]; rfl
  simp only [settle, running, under, state, ends]
  simp [same]

theorem settle_waiting_none (same : r.session = .fresh config address)
    (ends : r.wait? = none) : r.settle.session = r.session := by
  have state : r.session.state = .awaitingConnection := by rw [same]; rfl
  unfold settle
  split
  · rfl
  · simp [state, ends]

/-- A running session that reads takes in what its controller has said. -/
theorem settle_reading {noise : UInt32} (running : r.running = true)
    (going : r.session.ending = none) (reading : r.session.state = .reading noise) :
    r.settle.session = r.session.follow r.reads := by
  simp [settle, running, isOver, going, reading]

theorem settle_over (finished : r.isOver = true) : r.settle = r := by
  simp [settle, finished]

theorem settle_still (still : r.running = false) : r.settle = r := by
  simp [settle, still]

/-- Settling changes only the session and what is left to be read. -/
theorem flags_settle (r : Rehearsal) :
    r.settle.running = r.running ∧ r.settle.cancelled = r.cancelled ∧
      r.settle.expired = r.expired ∧ r.settle.connected = r.connected := by
  unfold settle
  split <;> simp

theorem route_settle (r : Rehearsal) : r.settle.route = r.route := by
  unfold settle
  split <;> rfl

theorem idle_settle (r : Rehearsal) : r.settle.Idle ↔ r.Idle := by
  obtain ⟨-, cancelled, expired, connected⟩ := r.flags_settle
  unfold Idle
  rw [cancelled, expired, connected]

/-- A session that waits goes on waiting, reads, or is over. -/
theorem stage_settle_waiting (running : r.running = true)
    (same : r.session = .fresh config address) : Stage config address r.settle := by
  obtain ⟨isRunning, -, -, isConnected⟩ := r.flags_settle
  cases ends : r.wait? with
  | none => exact .waiting ((settle_waiting_none same ends).trans same)
  | some wait =>
    have accepts : ∀ e, wait ≠ .failed e := by
      rintro e rfl
      exact r.wait?_ne_failed e ends
    have session := settle_waiting running same ends
    have settled := Session.settled_run config address accepts r.reads
    have timedOut := Session.run_timedOut_iff config address wait r.reads
    rw [← session] at settled timedOut
    rcases settled.standing with ⟨going, -, noise, reading⟩ | ⟨o, ended, -, -⟩
    · -- Only a connection leaves the session without an end.
      cases wait with
      | connected peer =>
        refine .reading (isRunning.trans running) ?_ settled going
        exact isConnected.trans (connected_of_wait? ends)
      | failed e => exact absurd rfl (accepts e)
      | cancelled => rw [session, Session.run, Session.follow_ended rfl] at going; cases going
      | elapsed => rw [session, Session.run, Session.follow_ended rfl] at going; cases going
    · refine .finished o settled ended ?_
      rw [idle_settle, ← wait?_elapsed_iff, ends, Option.some.injEq, ← timedOut, ended]
      simp

/-- A session that reads goes on reading, or is over for another reason than its idle timeout. -/
theorem stage_settle_reading (running : r.running = true) (connected : r.connected = true)
    (settled : r.session.Settled) (going : r.session.ending = none) : Stage config address r.settle := by
  obtain ⟨isRunning, -, -, isConnected⟩ := r.flags_settle
  obtain ⟨noise, reading⟩ := settled.reading going
  have session := settle_reading running going reading
  have other := Session.state_follow_ne_timedOut r.reads settled (by simp [reading])
  have settled' := Session.settled_follow r.reads settled
  have late := settled'.ne_timedOut other
  rw [← session] at settled' late
  rcases settled'.standing with ⟨going', -, -⟩ | ⟨o, ended, -, -⟩
  · exact .reading (isRunning.trans running) (isConnected.trans connected) settled' going'
  · refine .finished o settled' ended ?_
    rw [idle_settle]
    constructor
    · rintro rfl
      exact absurd ended late
    · intro idle
      rw [idle.2.1] at connected
      cases connected

theorem stage_settle (stage : Stage config address r) : Stage config address r.settle := by
  by_cases finished : r.isOver = true
  · rw [settle_over finished]
    exact stage
  by_cases still : r.running = false
  · rw [settle_still still]
    exact stage
  have running : r.running = true := by simpa using still
  cases stage with
  | waiting same => exact stage_settle_waiting running same
  | reading _ connected settled going => exact stage_settle_reading running connected settled going
  | finished o _ ended _ => simp [isOver, ended] at finished

/-! ## Scripts -/

/-- A step is told, and the session settles, or there is nobody to take it. -/
theorem step_cases {s : Step} {t : Rehearsal} (taken : r.step s = .ok t) :
    (t = r ∧ s ≠ .run) ∨ ∃ now, t = settle now ∧ Told s r now := by
  cases s with
  | connect =>
    cases route : r.route with
    | absent => simp [step, route] at taken
    | loopback =>
      simp only [step, route, Except.ok.injEq] at taken
      exact .inr ⟨_, taken.symm, rfl, route.symm, by simp, by simp, fun _ => rfl⟩
  | send bytes =>
    simp only [step, Except.ok.injEq] at taken
    split at taken
    · exact .inr ⟨_, taken.symm, rfl, rfl, by simp, by simp, id⟩
    · exact .inl ⟨taken.symm, by simp⟩
  | close | shutdown | reset =>
    simp only [step, Except.ok.injEq] at taken
    split at taken
    · exact .inr ⟨_, taken.symm, rfl, rfl, by simp, by simp, id⟩
    · exact .inl ⟨taken.symm, by simp⟩
  | cancel | run | expire =>
    simp only [step, Except.ok.injEq] at taken
    exact .inr ⟨_, taken.symm, rfl, rfl, by simp, by simp, id⟩

theorem stage_step {s : Step} {t : Rehearsal} (stage : Stage config address r)
    (under : r.isOver = false) (taken : r.step s = .ok t) : Stage config address t := by
  rcases step_cases taken with ⟨rfl, -⟩ | ⟨now, rfl, told⟩
  · exact stage
  · exact stage_settle (stage.told under told)

theorem steps_over (finished : r.isOver = true) (script : List Step) :
    r.steps script = .ok (r, 0) := by
  cases script with
  | nil => rfl
  | cons s script => simp [steps, finished]

theorem steps_cons (under : r.isOver = false) (s : Step) (script : List Step) :
    r.steps (s :: script) =
      (r.step s).bind fun t => (t.steps script).map fun (e, n) => (e, n + 1) := by
  simp only [steps, under]
  cases r.step s with
  | error e => rfl
  | ok t =>
    show Except.bind (t.steps script) _ = (t.steps script).map _
    cases t.steps script <;> rfl

/-- What each of its steps keeps, a script keeps. -/
theorem steps_keep {P : Rehearsal → Prop} {script : List Step}
    (keeps : ∀ s ∈ script, ∀ {r t : Rehearsal}, P r → r.isOver = false → r.step s = .ok t → P t)
    {e : Rehearsal} {n : Nat} (before : P r) (played : r.steps script = .ok (e, n)) : P e := by
  induction script generalizing r n with
  | nil =>
    cases played
    exact before
  | cons s script ih =>
    cases finished : r.isOver with
    | true =>
      rw [steps_over finished] at played
      cases played
      exact before
    | false =>
      rw [steps_cons finished] at played
      cases taken : r.step s with
      | error _ => rw [taken] at played; cases played
      | ok t =>
        rw [taken] at played
        cases rest : t.steps script with
        | error _ => simp [Except.bind, Except.map, rest] at played
        | ok p =>
          obtain ⟨e', m⟩ := p
          simp only [Except.bind, Except.map, rest] at played
          cases played
          have after := keeps s List.mem_cons_self before finished taken
          exact ih (fun s' later => keeps s' (List.mem_cons_of_mem s later)) after rest

theorem stage_steps {script : List Step} {e : Rehearsal} {n : Nat}
    (stage : Stage config address r) (played : r.steps script = .ok (e, n)) :
    Stage config address e :=
  steps_keep (fun _ _ => stage_step) stage played

theorem Stage.timedOut_iff (stage : Stage config address r) (finished : r.isOver = true) :
    r.session.ending = some (.ok .timedOut) ↔ r.Idle := by
  cases stage with
  | waiting same => rw [isOver, same] at finished; cases finished
  | reading _ _ _ going => simp [isOver, going] at finished
  | finished o _ ended idle => simp [ended, idle]

/-- A script ends in a timeout exactly when the timeout passed before anything else. -/
theorem play_timedOut_iff {script : List Step} {e : Rehearsal} {n : Nat}
    (stage : Stage config address r) (played : r.play script = .ok (e, n)) :
    e.session.ending = some (.ok .timedOut) ↔ e.Idle := by
  unfold play at played
  cases steps : r.steps script with
  | error _ => rw [steps] at played; cases played
  | ok p =>
    obtain ⟨t, m⟩ := p
    rw [steps] at played
    cases played
    have reached := stage_steps stage steps
    cases finished : t.isOver with
    | true =>
      simp only [finish, finished]
      exact reached.timedOut_iff finished
    | false =>
      -- The session that is not over is cancelled, so that it is not idle.
      have told : Stage config address { t with running := true, cancelled := true } := by
        cases reached with
        | waiting same => exact .waiting same
        | reading _ connected settled going => exact .reading rfl connected settled going
        | finished o _ ended _ => simp [isOver, ended] at finished
      have busy : ¬ (settle { t with running := true, cancelled := true }).Idle := by
        rw [idle_settle]
        simp [Idle]
      have settled := stage_settle told
      have last : t.finish = settle { t with running := true, cancelled := true } := by
        simp [finish, finished]
      rw [last]
      constructor
      · intro ended
        exact (settled.timedOut_iff (by simp [isOver, ended])).mp ended
      · intro idle
        exact absurd idle busy

/-- On the host's loopback route every script can be played. -/
theorem play_loopback (route : r.route = .loopback) (script : List Step) :
    ∃ e n, r.play script = .ok (e, n) := by
  have steps : ∃ e n, r.steps script = .ok (e, n) := by
    induction script generalizing r with
    | nil => exact ⟨r, 0, rfl⟩
    | cons s script ih =>
      cases finished : r.isOver with
      | true => exact ⟨r, 0, steps_over finished _⟩
      | false =>
        have taken : ∃ t, r.step s = .ok t := by
          cases s <;> simp [step, route]
        obtain ⟨t, taken⟩ := taken
        have route' : t.route = .loopback := by
          rcases step_cases taken with ⟨rfl, -⟩ | ⟨now, rfl, told⟩
          · exact route
          · rw [route_settle, told.route, route]
        obtain ⟨e, n, rest⟩ := ih route'
        refine ⟨e, n + 1, ?_⟩
        rw [steps_cons finished, taken]
        simp [Except.bind, Except.map, rest]
  obtain ⟨e, n, played⟩ := steps
  exact ⟨e.finish, n, by simp [play, played, Except.map]⟩

end Rehearsal

end StartSignal.Listener
