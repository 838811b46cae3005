/-
# StartSignal.Proofs.Listener.Cancellation -- what a cancellation cuts short

A cancellation that comes after the end of a session changes nothing.  One that comes
before is looked at before anything else, so the session is heard of no more messages and
ends as terminated: at once if it runs, and else as soon as it does.  `Cut` is the
invariant in between, kept by all that a script may still play.

Main result: `cancel_truncates`, over every script and every place in it.
-/
import StartSignal.Proofs.Listener.Script

namespace StartSignal.Listener

open Log

namespace Session

/-- A cancellation is the last that a session which reads waits for. -/
theorem follow_cancelled {s : Session} {noise : UInt32} (going : s.ending = none)
    (reading : s.state = .reading noise) (rest : List Read) :
    (s.follow (.cancelled :: rest)).ending = some (.ok .terminated) ∧
      heard (s.follow (.cancelled :: rest)).log = heard s.log := by
  have ended : (s.follow [.cancelled]).ending = some (.ok .terminated) :=
    ending_follow_one going reading .cancelled
  have silent : heard (s.follow [.cancelled]).log = heard s.log := by
    rw [heard_follow_one going reading]
    exact List.append_nil _
  rw [follow_cons, follow_ended (by simp [ended])]
  exact ⟨ended, silent⟩

/-- A session that has not ended has been waited on, and can be cancelled. -/
theorem run_cancelled (config : Config) (address : SocketAddress) {wait : Wait}
    {first : List Read}
    (going : ((fresh config address).run wait first).ending = none)
    (rest : List Read) :
    ((fresh config address).run wait (first ++ .cancelled :: rest)).ending =
        some (.ok .terminated) ∧
      heard ((fresh config address).run wait (first ++ .cancelled :: rest)).log =
        heard ((fresh config address).run wait first).log := by
  have accepts : ∀ e, wait ≠ .failed e := by
    rintro e rfl
    rw [(run_failed config address e first).1] at going
    cases going
  have settled := settled_run config address accepts first
  unfold run at going settled ⊢
  rw [follow_append]
  obtain ⟨noise, reading⟩ := settled.reading going
  exact follow_cancelled going reading rest

end Session

namespace Rehearsal

variable {config : Config} {address : SocketAddress} {r : Rehearsal}

/-! ## Scripts in two parts -/

/-- A script may pause after any of its steps. -/
theorem steps_append (r : Rehearsal) (before after : List Step) :
    r.steps (before ++ after) =
      (r.steps before).bind fun (t, n) => (t.steps after).map fun (e, m) => (e, n + m) := by
  induction before generalizing r with
  | nil =>
    show r.steps after = (r.steps after).map fun (e, m) => (e, 0 + m)
    cases r.steps after <;> simp [Except.map]
  | cons s before ih =>
    rw [List.cons_append]
    cases finished : r.isOver with
    | true =>
      rw [steps_over finished, steps_over finished]
      simp [Except.bind, Except.map, steps_over finished]
    | false =>
      rw [steps_cons finished, steps_cons finished]
      cases r.step s with
      | error _ => rfl
      | ok t =>
        simp only [Except.bind, ih]
        cases t.steps before with
        | error _ => rfl
        | ok p =>
          cases later : p.1.steps after with
          | error _ => simp [Except.map, later]
          | ok q => simp [Except.map, later, Nat.add_right_comm]

theorem play_append {before : List Step} {t : Rehearsal} {n : Nat}
    (played : r.steps before = .ok (t, n)) (after : List Step) :
    r.play (before ++ after) = (t.steps after).map fun (e, m) => (e.finish, n + m) := by
  unfold play
  rw [steps_append, played]
  simp only [Except.bind]
  cases t.steps after <;> rfl

/-- Nothing is played after the end of a session. -/
theorem play_append_over {before : List Step} {t : Rehearsal} {n : Nat}
    (played : r.steps before = .ok (t, n)) (finished : t.isOver = true) (after : List Step) :
    r.play (before ++ after) = .ok (t, n) := by
  rw [play_append played, steps_over finished]
  simp [Except.map, finish, finished]

/-! ## Sessions that are cut short -/

/-- A cancellation has cut a rehearsal short: its session is over or has yet to run, and
`told` is all it is ever heard of. -/
inductive Cut (config : Config) (address : SocketAddress) (told : List (String × Nat))
    (r : Rehearsal) : Prop where
  | pending (cancelled : r.cancelled = true) (still : r.running = false)
      (same : r.session = .fresh config address) (silent : told = [])
  | finished (ended : r.session.ending = some (.ok .terminated))
      (same : heard r.session.log = told)

theorem heard_fresh (config : Config) (address : SocketAddress) :
    heard (Session.fresh config address).log = [] := by
  have numbered := (Session.faithful_fresh config address).numbered
  exact List.map_eq_nil_iff.mp numbered

/-- A cancellation ends a running session at once, and nothing more is heard of it. -/
theorem settle_cancelled (stage : Stage config address r) (under : r.isOver = false)
    (running : r.running = true) (cancelled : r.cancelled = true) :
    r.settle.session.ending = some (.ok .terminated) ∧
      heard r.settle.session.log = heard r.session.log := by
  have reads : r.reads = [.cancelled] := by simp [Rehearsal.reads, cancelled]
  cases stage with
  | waiting same =>
    have ends : r.wait? = some .cancelled := by simp [wait?, cancelled]
    have settled : Session.Settled ((Session.fresh config address).await .cancelled) :=
      Session.settled_await config address (by simp)
    rw [settle_waiting running same ends, Session.run, Session.follow_ended rfl, same, heard_fresh]
    exact ⟨rfl, List.map_eq_nil_iff.mp settled.faithful.numbered⟩
  | reading _ _ settled going =>
    obtain ⟨noise, reading⟩ := settled.reading going
    rw [settle_reading running going reading, reads]
    exact Session.follow_cancelled going reading []
  | finished o _ ended _ => simp [isOver, ended] at under

theorem Cut.of_settle (stage : Stage config address r) (under : r.isOver = false)
    (cancelled : r.cancelled = true) : Cut config address (heard r.session.log) r.settle := by
  cases running : r.running with
  | true =>
    obtain ⟨ended, same⟩ := settle_cancelled stage under running cancelled
    exact .finished ended same
  | false =>
    rw [settle_still running]
    cases stage with
    | waiting same => exact .pending cancelled running same (by rw [same, heard_fresh])
    | reading isRunning _ _ _ => rw [running] at isRunning; cases isRunning
    | finished o _ ended _ => simp [isOver, ended] at under

/-- A cancellation cuts a session short that is not over. -/
theorem Cut.of_cancel {t : Rehearsal} (stage : Stage config address r) (under : r.isOver = false)
    (taken : r.step .cancel = .ok t) : Cut config address (heard r.session.log) t := by
  cases taken
  have told : Told .cancel r { r with cancelled := true } := ⟨rfl, rfl, by simp, by simp, id⟩
  exact Cut.of_settle (stage.told under told) under rfl

/-- A session stays cut short, whatever is played. -/
theorem Cut.step {told : List (String × Nat)} {s : Step} {t : Rehearsal}
    (cut : Cut config address told r) (under : r.isOver = false) (taken : r.step s = .ok t) :
    Cut config address told t := by
  cases cut with
  | finished ended _ => simp [isOver, ended] at under
  | pending cancelled still same silent =>
    have stage : Stage config address r := .waiting same
    have quiet : heard r.session.log = told := by rw [same, heard_fresh, silent]
    rcases step_cases taken with ⟨rfl, -⟩ | ⟨now, rfl, told⟩
    · exact .pending cancelled still same silent
    · have under' : now.isOver = false := by rw [isOver, told.session]; exact under
      rw [← quiet, ← told.session]
      exact Cut.of_settle (stage.told under told) under' (by simp [told.cancelled, cancelled])

theorem Cut.finish {told : List (String × Nat)} (cut : Cut config address told r) :
    r.finish.session.ending = some (.ok .terminated) ∧ heard r.finish.session.log = told := by
  cases cut with
  | finished ended same =>
    have finished : r.isOver = true := by simp [isOver, ended]
    simp only [Rehearsal.finish, finished]
    exact ⟨ended, same⟩
  | pending cancelled still same silent =>
    have under : r.isOver = false := by rw [isOver, same]; rfl
    have stage : Stage config address { r with running := true, cancelled := true } :=
      .waiting same
    obtain ⟨ended, quiet⟩ := settle_cancelled stage under rfl rfl
    simp only [Rehearsal.finish, under]
    exact ⟨ended, quiet.trans (by rw [same, heard_fresh, silent])⟩

/-- Whatever is played after it, a cancellation cuts a session short that is not over. -/
theorem cut_play {before after : List Step} {t e : Rehearsal} {n m : Nat}
    (stage : Stage config address r) (played : r.steps before = .ok (t, n))
    (under : t.isOver = false) (whole : r.play (before ++ .cancel :: after) = .ok (e, m)) :
    e.session.ending = some (.ok .terminated) ∧
      heard e.session.log = heard t.session.log := by
  have cut : Cut config address (heard t.session.log) { t with cancelled := true }.settle :=
    Cut.of_cancel (stage_steps stage played) under rfl
  rw [play_append played, steps_cons under] at whole
  cases rest : { t with cancelled := true }.settle.steps after with
  | error _ => simp [Except.bind, Except.map, step, rest] at whole
  | ok p =>
    obtain ⟨u, k⟩ := p
    have last := steps_keep (fun _ _ => Cut.step) cut rest
    simp only [Except.bind, Except.map, step, rest, Except.ok.injEq, Prod.mk.injEq] at whole
    obtain ⟨rfl, -⟩ := whole
    exact last.finish

/-- A session that has not been run has not begun to wait. -/
theorem steps_still {before : List Step} {t : Rehearsal} {n : Nat} (still : r.running = false)
    (never : .run ∉ before) (played : r.steps before = .ok (t, n)) :
    t.session = r.session := by
  have keeps : ∀ s ∈ before, ∀ {u v : Rehearsal}, u.running = false ∧ u.session = r.session →
      u.isOver = false → u.step s = .ok v → v.running = false ∧ v.session = r.session := by
    rintro s member u v ⟨still, same⟩ - taken
    rcases step_cases taken with ⟨rfl, -⟩ | ⟨now, rfl, told⟩
    · exact ⟨still, same⟩
    · have other : s ≠ .run := by
        rintro rfl
        exact never member
      have still' : now.running = false := by simp [told.running, still, other]
      -- A session that does not run takes nothing in.
      rw [settle_still still']
      exact ⟨still', told.session.trans same⟩
  exact (steps_keep keeps ⟨still, rfl⟩ played).2

/-! ## Main result -/

/-- **A cancellation cuts a session short and does nothing else.**  Put anywhere into a script,
it changes nothing of a session that is over by then.  Otherwise the session ends as terminated
and has heard what it had heard before the cancellation, which is nothing if it had not run.
The same holds of a cancellation among the waits of a session on its connection. -/
theorem cancel_truncates (config : Config) (address controller : SocketAddress) (route : Route)
    (before after : List Step) :
    ∃ s, Session.bind config (.listening address) = .ok s ∧
      (route = .loopback → ∀ script, ∃ e n, (start s route controller).play script = .ok (e, n)) ∧
      (∀ t n, (start s route controller).steps before = .ok (t, n) →
        (t.session.state.isTerminal = true →
          (start s route controller).play (before ++ .cancel :: after) = .ok (t, n) ∧
          (start s route controller).play (before ++ after) = .ok (t, n)) ∧
        (t.session.state.isTerminal = false → ∀ e m,
          (start s route controller).play (before ++ .cancel :: after) = .ok (e, m) →
          e.session.ending = some (.ok .terminated) ∧ Outcome.terminated.exitCode = 143 ∧
          heard e.session.log = heard t.session.log) ∧
        (.run ∉ before → t.session.state.isTerminal = false ∧ heard t.session.log = [])) ∧
      (∀ wait first rest,
        ((s.run wait first).ending.isSome = true →
          s.run wait (first ++ .cancelled :: rest) = s.run wait first ∧
          s.run wait (first ++ rest) = s.run wait first) ∧
        ((s.run wait first).ending = none →
          (s.run wait (first ++ .cancelled :: rest)).ending = some (.ok .terminated) ∧
          heard (s.run wait (first ++ .cancelled :: rest)).log =
            heard (s.run wait first).log)) := by
  refine ⟨_, Session.bind_fresh config address, ?_, ?_, ?_⟩
  case refine_1 => exact fun loopback script => play_loopback loopback script
  case refine_2 =>
    intro t n played
    have begun := stage_start config address route controller
    have terminal := (stage_steps begun played).isTerminal_eq
    refine ⟨?_, ?_, ?_⟩
    · intro finished
      rw [terminal] at finished
      exact ⟨play_append_over played finished _, play_append_over played finished _⟩
    · intro under e m whole
      rw [terminal] at under
      obtain ⟨ended, same⟩ := cut_play begun played under whole
      exact ⟨ended, rfl, same⟩
    · intro never
      rw [steps_still rfl never played]
      exact ⟨rfl, heard_fresh config address⟩
  case refine_3 =>
    intro wait first rest
    constructor
    · intro ended
      simp only [Session.run, Session.follow_append] at ended ⊢
      exact ⟨Session.follow_ended ended _, Session.follow_ended ended _⟩
    · intro going
      exact Session.run_cancelled config address going rest

end Rehearsal

end StartSignal.Listener
