/-
# StartSignal.Proofs.Listener.Refinement -- a session is a run of the state machine

The invariant of a session is `Faithful`: its events are a run of the state machine in
which every event is taken, its log tells the steps of that run, and it tells the
messages under the ordinals 1, 2, and so on, each followed by the step it causes.  While
the session reads, its ordinal, the count in its state and the number of messages are the
same, so that no ordinal is out of range.

A session that has a controller either reads on with both sockets open, or has ended in
the outcome of its state with both closed (`Settled`).  That holds from the connection on
(`settled_connect`), whatever a wait on it ends with (`Settled.read`).  As long as it reads
on it has had nothing but messages, fewer than it bears (`Settled.reads_on`).

Main result: `run_refines`.
-/
import StartSignal.Proofs.Listener.Conduct

namespace StartSignal.Listener

open Log

namespace Session

/-- Where the step after a message may lead: on to the next one or, after the last, to the
end. -/
def LeadsOn (s : Session) (ordinal : Nat) (target : String) : Prop :=
  target = readingText ordinal ∨
    ordinal = s.ordinal.toNat ∧ s.state.isTerminal = true ∧ target = s.state.render

/-- The story of a session, as its events and its log tell it, is that of its state. -/
structure Faithful (s : Session) : Prop where
  ran : State.run? s.config.ceiling .idle (.bound :: .listening :: s.events) = .ok s.state
  passed : transitions s.log = State.passages s.config.ceiling .awaitingConnection s.events
  numbered : (heard s.log).map Prod.snd = List.range' 1 s.ordinal.toNat
  counted : ∀ noise, s.state = .reading noise →
    s.ordinal = noise ∧ noise.toNat < patience s.config.ceiling
  answered : Answered s.LeadsOn s.log

/-- A session that has a controller and does nothing until its next wait ends. -/
structure Settled (s : Session) : Prop where
  faithful : Faithful s
  standing :
    (s.ending = none ∧ s.sockets = [.listening, .connection] ∧ ∃ noise, s.state = .reading noise) ∨
      ∃ o, s.ending = some (.ok o) ∧ s.sockets = [] ∧ s.state.outcome? = some o

/-! ## The beginning -/

/-- A session without a log has nothing to be faithful to. -/
theorem faithful_unlogged (config : Config) (address : SocketAddress) :
    Faithful { fresh config address with log := [] } where
  ran := rfl
  passed := rfl
  numbered := rfl
  counted := by
    intro noise reading
    cases reading
  answered := Answered.nil

/-- Only the story of a session counts, not its sockets or its end. -/
theorem Faithful.congr {s t : Session} (before : Faithful s) (config : t.config = s.config)
    (state : t.state = s.state) (events : t.events = s.events) (ordinal : t.ordinal = s.ordinal)
    (log : t.log = s.log) : Faithful t := by
  obtain ⟨ran, passed, numbered, counted, answered⟩ := before
  constructor
  case ran => rw [config, state, events]; exact ran
  case passed => rw [config, log, events]; exact passed
  case numbered => rw [ordinal, log]; exact numbered
  case counted => rw [config, state, ordinal]; exact counted
  case answered =>
    rw [log]
    apply answered.mono
    intro number target leads
    unfold LeadsOn at leads ⊢
    rw [state, ordinal]
    exact leads

/-- Asides change nothing of the story. -/
theorem Faithful.note {s : Session} (before : Faithful s) {r : Record} (aside : Aside r) :
    Faithful (s.note r) where
  ran := before.ran
  passed := by
    show transitions (s.log ++ [r]) = _
    rw [transitions_append, aside.transitions_singleton, List.append_nil]
    exact before.passed
  numbered := by
    show (heard (s.log ++ [r])).map Prod.snd = _
    rw [heard_append, aside.heard_singleton, List.append_nil]
    exact before.numbered
  counted := before.counted
  answered := before.answered.aside aside.unheard

theorem faithful_fresh (config : Config) (address : SocketAddress) :
    Faithful (fresh config address) :=
  (faithful_unlogged config address).note (aside_of_text (by decide) (by decide))

/-! ## One wait on the connection -/

theorem run?_started (ceiling : UInt32) (es : List Event) :
    State.run? ceiling .idle (.bound :: .listening :: es) =
      State.run? ceiling .awaitingConnection es := by
  rw [State.run?_cons]
  show State.run? ceiling .bound (.listening :: es) = _
  rw [State.run?_cons]
  rfl

/-- A session that goes on has answered every message by going on. -/
theorem Faithful.went_on {s : Session} (before : Faithful s) (going : s.state.isTerminal = false) :
    Answered (fun ordinal target => target = readingText ordinal) s.log := by
  apply before.answered.mono
  rintro ordinal target (on | ⟨-, terminal, -⟩)
  · exact on
  · rw [going] at terminal
    cases terminal

/-- What a record tells when the ordinal goes from one number to another: nothing while it
stays, and the message of the next ordinal when it grows. -/
def Tells (cause : Record) (before after : UInt32) : Prop :=
  (heardIn? cause = none ∧ after = before) ∨
    ∃ text, heardIn? cause = some (text, after.toNat) ∧ after.toNat = before.toNat + 1

theorem Tells.numbered {log : List Record} {cause : Record} {before after : UInt32} {s t : State}
    (tells : Tells cause before after)
    (numbered : (heard log).map Prod.snd = List.range' 1 before.toNat) :
    (heard (log ++ [cause, transitionRecord s t])).map Prod.snd = List.range' 1 after.toNat := by
  rw [heard_append, List.map_append, numbered]
  rcases tells with ⟨unheard, rfl⟩ | ⟨text, told, next⟩
  · rw [heard, List.filterMap_cons_none unheard]
    simp
  · rw [heard, List.filterMap_cons_some told, next, List.range'_concat]
    simp [Nat.add_comm]

/-- A session stays faithful when it logs what happened, takes the event, and logs the step. -/
theorem Faithful.grow {s : Session} (before : Faithful s) (going : s.state.isTerminal = false)
    {cause : Record} {e : Event} {t : State} {ordinal : UInt32}
    (taken : s.state.next e s.config.ceiling = .ok t)
    (still : transitionIn? cause = none) (tells : Tells cause s.ordinal ordinal)
    (counted : ∀ noise, t = .reading noise →
      ordinal = noise ∧ noise.toNat < patience s.config.ceiling)
    (leads : t.isTerminal = true ∨ t.render = readingText ordinal.toNat) :
    Faithful { s with
      state := t
      events := s.events ++ [e]
      ordinal := ordinal
      log := s.log ++ [cause, transitionRecord s.state t] } := by
  have ran := before.ran
  rw [run?_started] at ran
  constructor
  case ran => exact State.run?_concat before.ran taken
  case passed =>
    rw [State.passages_concat ran taken, ← before.passed, transitions_append]
    congr 1
    rw [transitions, List.filterMap_cons_none still]
    simp
  case numbered => exact tells.numbered before.numbered
  case counted => exact counted
  case answered =>
    refine Answered.pair ((before.went_on going).mono fun _ _ on => .inl on) ?_
    intro text number told
    rcases tells with ⟨unheard, -⟩ | ⟨_, told', -⟩
    · rw [unheard] at told
      cases told
    · rw [told'] at told
      cases told
      rcases leads with terminal | on
      · exact .inr ⟨rfl, terminal, rfl⟩
      · exact .inl on

/-- A session that ends because of something else than a message. -/
theorem Faithful.leave {s : Session} (before : Faithful s) (going : s.state.isTerminal = false)
    {r : Record} {e : Event} {t : State} (taken : s.state.next e s.config.ceiling = .ok t)
    (terminal : t.isTerminal = true) (aside : Aside r) :
    Faithful ((s.note r).apply e) := by
  have step : (s.note r).apply e = { s with
      state := t, events := s.events ++ [e], log := s.log ++ [r, transitionRecord s.state t] } := by
    rw [apply_eq (s := s.note r) taken]
    simp [Session.note]
  rw [step]
  refine before.grow going taken aside.still (.inl ⟨aside.unheard, rfl⟩) ?_ (.inl terminal)
  intro noise reading
  rw [reading] at terminal
  cases terminal

theorem Faithful.tells_cause {s : Session} {noise : UInt32} (before : Faithful s)
    (reading : s.state = .reading noise) (r : Read) :
    Tells (s.cause r) s.ordinal (s.ordinalAfter r) := by
  obtain ⟨same, below⟩ := before.counted noise reading
  have heardOf := s.heardIn?_cause r
  cases text : r.text? with
  | none => exact .inl ⟨by rw [heardOf, text]; rfl, by simp [ordinalAfter, text]⟩
  | some t =>
    have after : s.ordinalAfter r = s.ordinal + 1 := by simp [ordinalAfter, text]
    refine .inr ⟨t, by rw [heardOf, text, after]; rfl, ?_⟩
    rw [after, same]
    exact toNat_succ below

theorem Faithful.observe {s : Session} {noise : UInt32} (before : Faithful s)
    (reading : s.state = .reading noise) (r : Read) : Faithful (s.observe r) := by
  obtain ⟨same, below⟩ := before.counted noise reading
  have going : s.state.isTerminal = false := by rw [reading]; rfl
  have taken : s.state.next r.event s.config.ceiling = .ok (r.leadsTo noise s.config.ceiling) := by
    rw [reading]
    exact r.next_event noise s.config.ceiling
  rw [observe_eq reading]
  have tells := before.tells_cause reading r
  rcases r.leadsTo_cases below with terminal | ⟨early, goesOn, text, isText⟩
  · refine before.grow going taken (s.still_cause r) tells ?_ (.inl terminal)
    intro noise' reading'
    rw [reading'] at terminal
    cases terminal
  · have after : s.ordinalAfter r = noise + 1 := by simp [ordinalAfter, isText, same]
    refine before.grow going taken (s.still_cause r) tells ?_ (.inr ?_)
    · intro noise' reading'
      rw [goesOn] at reading'
      cases reading'
      refine ⟨after, ?_⟩
      rw [toNat_succ below]
      exact early
    · rw [goesOn, after]
      exact State.render_reading _

/-! ## Sessions with a controller -/

theorem Settled.reading {s : Session} (settled : Settled s) (going : s.ending = none) :
    ∃ noise, s.state = .reading noise := by
  rcases settled.standing with ⟨-, -, reading⟩ | ⟨o, ended, -, -⟩
  · exact reading
  · rw [going] at ended
    cases ended

theorem Settled.outcome {s : Session} (settled : Settled s) {o : Outcome}
    (ended : s.ending = some (.ok o)) : s.state.outcome? = some o := by
  rcases settled.standing with ⟨going, -, -⟩ | ⟨o', ended', -, outcome⟩
  · rw [going] at ended
    cases ended
  · rw [ended'] at ended
    cases ended
    exact outcome

theorem settled_connect (config : Config) (address peer : SocketAddress) :
    Settled ((fresh config address).connect peer) where
  faithful := by
    have opened : Aside (openingRecord config address) := aside_of_text (by decide) (by decide)
    have connected : Aside (peerRecord peer) := aside_of_text (by decide) (by decide)
    have first : ∀ noise, State.reading 0 = .reading noise →
        (0 : UInt32) = noise ∧ noise.toNat < patience config.ceiling := by
      intro noise same
      cases same
      exact ⟨rfl, patience_pos config.ceiling⟩
    have accepted := (faithful_unlogged config address).grow (e := .accepted) rfl rfl
      opened.still (.inl ⟨opened.unheard, rfl⟩) first (.inr rfl)
    rw [connect_fresh]
    exact (accepted.note connected).congr rfl rfl rfl rfl rfl
  standing := .inl ⟨rfl, rfl, 0, rfl⟩

/-- A session in a terminal state closes in its outcome. -/
theorem Faithful.close {s : Session} (before : Faithful s) (going : s.ending = none)
    {o : Outcome} (outcome : s.state.outcome? = some o) : Settled s.close := by
  rw [close_eq going outcome]
  exact ⟨(before.note s.aside_closingRecord).congr rfl rfl rfl rfl rfl,
    .inr ⟨o, rfl, rfl, outcome⟩⟩

/-- Whatever one wait on its connection ends with, a session settles again. -/
theorem Settled.read {s : Session} (settled : Settled s) (r : Read) : Settled (s.follow [r]) := by
  rcases settled.standing with ⟨going, sockets, noise, reading⟩ | ⟨o, ended, -, -⟩
  · have after := settled.faithful.observe reading r
    have counted := (settled.faithful.counted noise reading).2
    have state := state_observe reading r
    have going' : (s.observe r).ending = none := (ending_observe reading r).trans going
    rw [follow_one going reading]
    rcases r.leadsTo_cases counted with terminal | ⟨-, goesOn, -⟩
    · rw [if_pos terminal]
      rw [← state] at terminal
      obtain ⟨o, outcome⟩ := Option.isSome_iff_exists.mp terminal
      exact after.close going' outcome
    · rw [if_neg (by simp [goesOn])]
      refine ⟨after, .inl ⟨going', ?_, noise + 1, state.trans goesOn⟩⟩
      rw [observe_eq reading]
      exact sockets
  · rw [follow_ended (by simp [ended])]
    exact settled

theorem Settled.follow_nil {s : Session} (settled : Settled s) : s.follow [] = s := by
  rcases settled.standing with ⟨-, -, noise, reading⟩ | ⟨o, ended, -, -⟩
  · exact Session.follow_nil reading
  · exact follow_ended (by simp [ended]) []

theorem settled_follow (reads : List Read) {s : Session} (settled : Settled s) :
    Settled (s.follow reads) := by
  induction reads generalizing s with
  | nil =>
    rw [settled.follow_nil]
    exact settled
  | cons r reads ih =>
    rw [follow_cons]
    exact ih (settled.read r)

/-- A session that reads on has had nothing but messages, fewer than it bears. -/
theorem Settled.reads_on (reads : List Read) {s : Session} {noise : UInt32}
    (settled : Settled s) (reading : s.state = .reading noise)
    (going : (s.follow reads).ending = none) :
    (∀ r ∈ reads, ∃ text, r.text? = some text) ∧
      noise.toNat + reads.length < patience s.config.ceiling := by
  have counted := (settled.faithful.counted noise reading).2
  induction reads generalizing s noise with
  | nil =>
    refine ⟨?_, counted⟩
    intro r never
    cases never
  | cons r reads ih =>
    rw [follow_cons] at going
    have going' := going_of_follow going
    have before := going_of_follow going'
    rcases r.leadsTo_cases counted with terminal | ⟨early, goesOn, isMessage⟩
    · obtain ⟨o, outcome⟩ := Option.isSome_iff_exists.mp terminal
      rw [ending_follow_one before reading, outcome] at going'
      cases going'
    · have next : (s.follow [r]).state = .reading (noise + 1) := by
        rw [state_follow_one before reading, goesOn]
      have count := toNat_succ counted
      obtain ⟨messages, bound⟩ := ih (settled.read r) next going
        (by rw [config_follow, count]; exact early)
      rw [config_follow, count] at bound
      refine ⟨?_, ?_⟩
      · intro r' member
        rcases List.mem_cons.mp member with rfl | later
        · exact isMessage
        · exact messages r' later
      · rw [List.length_cons]
        omega

/-! ## Whole runs -/

/-- A session settles once its wait for a controller has ended, unless accepting failed. -/
theorem settled_await (config : Config) (address : SocketAddress) {wait : Wait}
    (accepts : ∀ e, wait ≠ .failed e) :
    Settled ((fresh config address).await wait) := by
  have before := faithful_fresh config address
  cases wait with
  | cancelled =>
    unfold await
    refine (before.leave (t := .terminated) rfl rfl rfl ?_).close rfl rfl
    exact aside_of_text (by decide) (by decide)
  | elapsed =>
    unfold await
    refine (before.leave (t := .timedOut) rfl rfl rfl ?_).close rfl rfl
    exact aside_of_text (by decide) (by decide)
  | failed e => exact absurd rfl (accepts e)
  | connected peer => exact settled_connect config address peer

theorem settled_run (config : Config) (address : SocketAddress) {wait : Wait}
    (accepts : ∀ e, wait ≠ .failed e) (reads : List Read) :
    Settled ((fresh config address).run wait reads) :=
  settled_follow reads (settled_await config address accepts)

/-- A session whose accept fails ends in that failure. -/
theorem run_failed (config : Config) (address : SocketAddress) (e : IoError)
    (reads : List Read) :
    ((fresh config address).run (.failed e) reads).ending = some (.error (.accept e)) ∧
      ((fresh config address).run (.failed e) reads).sockets = [] := by
  unfold run
  rw [follow_ended rfl]
  exact ⟨rfl, rfl⟩

theorem config_run (config : Config) (address : SocketAddress) (wait : Wait) (reads : List Read) :
    ((fresh config address).run wait reads).config = config := by
  unfold run
  rw [config_follow]
  cases wait <;> rfl

/-- A session that has ended in an outcome is a run of the state machine that ends in it. -/
structure Refines (s : Session) (ceiling : UInt32) (o : Outcome) : Prop where
  /-- Every event is taken, from the very first state on. -/
  ran : State.run? ceiling .idle (.bound :: .listening :: s.events) = .ok s.state
  outcome : s.state.outcome? = some o
  /-- The log tells the steps of the run. -/
  passed : transitions s.log = State.passages ceiling .awaitingConnection s.events
  first : (transitions s.log).head?.map Prod.fst = some "awaiting_connection"
  chained : (transitions s.log).IsChain fun p q => p.2 = q.1
  last : (transitions s.log).getLast?.map Prod.snd = some s.state.render
  /-- The ordinals of the messages are 1, 2, and so on. -/
  numbered : (heard s.log).map Prod.snd = List.range' 1 (heard s.log).length
  /-- A message is followed by the step to its count, unless it is the last and ends the
  session. -/
  answered : Answered (fun ordinal target => target = readingText ordinal ∨
    ordinal = (heard s.log).length ∧ target = s.state.render) s.log

theorem Settled.refines {s : Session} (settled : Settled s) {o : Outcome}
    (ended : s.ending = some (.ok o)) : Refines s s.config.ceiling o := by
  have outcome := settled.outcome ended
  obtain ⟨ran, passed, numbered, counted, answered⟩ := settled.faithful
  have count : s.ordinal.toNat = (heard s.log).length := by
    have lengths := congrArg List.length numbered
    simpa using lengths.symm
  have started := ran
  rw [run?_started] at started
  -- A run without events would still be waiting for its controller.
  have moved : transitions s.log ≠ [] := by
    intro still
    have none : s.events.length = 0 := by
      rw [← State.length_passages started, ← passed, still]
      rfl
    rw [List.length_eq_zero_iff.mp none] at started
    have stays : State.awaitingConnection = s.state := Except.ok.inj started
    rw [← stays] at outcome
    cases outcome
  have chained := State.run?_chained started
  rw [← passed] at chained
  exact {
    ran, outcome, passed
    first := chained.head moved
    chained := chained.isChain
    last := chained.last moved
    numbered := by rw [numbered, count]
    answered := answered.mono fun ordinal target leads => by
      rcases leads with on | ⟨last, -, final⟩
      · exact .inl on
      · exact .inr ⟨last.trans count, final⟩ }

/-- A session that has not ended has a controller that has said nothing but messages, fewer
than it bears. -/
theorem run_going {config : Config} {address : SocketAddress} {wait : Wait} {reads : List Read}
    (going : ((fresh config address).run wait reads).ending = none) :
    (∃ peer, wait = .connected peer) ∧ (∀ r ∈ reads, ∃ text, r.text? = some text) ∧
      reads.length < patience config.ceiling := by
  cases wait with
  | connected peer =>
    have reading : ((fresh config address).connect peer).state = .reading 0 := by
      rw [connect_fresh]
    obtain ⟨messages, bound⟩ :=
      (settled_connect config address peer).reads_on reads reading going
    have short : 0 + reads.length < patience config.ceiling := bound
    rw [Nat.zero_add] at short
    exact ⟨⟨peer, rfl⟩, messages, short⟩
  | failed e =>
    rw [(run_failed config address e reads).1] at going
    cases going
  | cancelled | elapsed =>
    rw [run, follow_ended rfl] at going
    cases going

/-- **A session is a run of the state machine.**  Whatever its surroundings do, it never meets
an event that its state does not take.  It ends, unless all that it has had from its controller
are messages, fewer than it bears.  It fails only when accepting fails, and ends else in the
outcome of a run of the state machine that takes every event (`Refines`).  Both its sockets are
open until it ends, and closed then. -/
theorem run_refines (config : Config) (address : SocketAddress) (wait : Wait)
    (reads : List Read) :
    ∃ s, bind config (.listening address) = .ok s ∧
      ((s.run wait reads).ending = none →
        (∃ peer, wait = .connected peer) ∧ (∀ r ∈ reads, ∃ text, r.text? = some text) ∧
          reads.length < patience config.ceiling) ∧
      (∀ t, (s.run wait reads).ending ≠ some (.error (.invalidTransition t))) ∧
      (∀ e, (s.run wait reads).ending = some (.error e) ↔
        ∃ source, wait = .failed source ∧ e = .accept source) ∧
      (∀ o, (s.run wait reads).ending = some (.ok o) →
        (s.run wait reads).Refines config.ceiling o) ∧
      (s.run wait reads).sockets =
        if (s.run wait reads).ending.isSome then [] else [.listening, .connection] := by
  refine ⟨_, bind_fresh config address, run_going, ?_⟩
  by_cases failed : ∃ e, wait = .failed e
  · obtain ⟨e, rfl⟩ := failed
    obtain ⟨ended, sockets⟩ := run_failed config address e reads
    refine ⟨by simp [ended], ?_, by simp [ended], by simp [ended, sockets]⟩
    intro err
    simp [ended, eq_comm]
  · have accepts : ∀ e, wait ≠ .failed e := fun e same => failed ⟨e, same⟩
    have settled := settled_run config address accepts reads
    have refined := fun o => settled.refines (o := o)
    rw [config_run] at refined
    rcases settled.standing with ⟨going, sockets, -⟩ | ⟨o, ended, sockets, -⟩
    · simp [going, sockets, accepts]
    · exact ⟨by simp [ended], by simp [ended, accepts], refined, by simp [ended, sockets]⟩

end Session

end StartSignal.Listener
