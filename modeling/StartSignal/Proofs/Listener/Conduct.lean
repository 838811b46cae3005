/-
# StartSignal.Proofs.Listener.Conduct -- one wait on the connection of a session

`observe_eq` says everything that a wait on the connection does to a session that reads:
it logs how the wait ended (`cause`), takes the event (`Read.event`), and logs the step.
A listener that reads takes every such event (`Read.next_event`), and then either has
ended or has counted one more message and has patience left (`Read.leadsTo_cases`).

Nothing happens to a session that has ended (`follow_ended`), and one that reads may pause
after any wait (`follow_append`).  So a run is understood one wait at a time:
`state_follow_one`, `ending_follow_one` and `heard_follow_one` are all there is to say of
one.
-/
import StartSignal.Listener.Session
import StartSignal.Proofs.Listener.Journal
import StartSignal.Proofs.Listener.Machine

namespace StartSignal.Listener

open Log

/-! ## One wait on the connection -/

namespace Read

def event : Read → Event
  | .cancelled => .terminationRequested
  | .received (.text t) => .message (.decode t)
  | .received .closed => .peerClosed
  | .received (.failed _) => .readFailed

/-- The text that a wait ends with, if it is a message. -/
def text? : Read → Option String
  | .received (.text t) => some t
  | _ => none

/-- Where a listener that has counted some noise is after a wait. -/
def leadsTo (noise ceiling : UInt32) : Read → State
  | .cancelled => .terminated
  | .received (.text t) => .afterMessage noise (.decode t) ceiling
  | .received .closed => .released .peerClosed
  | .received (.failed _) => .released .readFailed

/-- A listener that reads takes whatever a wait ends with. -/
theorem next_event (noise ceiling : UInt32) (r : Read) :
    (State.reading noise).next r.event ceiling = .ok (r.leadsTo noise ceiling) := by
  rcases r with _ | (_ | _ | _) <;> rfl

/-- A listener that reads ends or counts one more message. -/
theorem leadsTo_cases {noise ceiling : UInt32} (below : noise.toNat < patience ceiling)
    (r : Read) :
    (r.leadsTo noise ceiling).isTerminal = true ∨
      (noise.toNat + 1 < patience ceiling ∧ r.leadsTo noise ceiling = .reading (noise + 1) ∧
        ∃ text, r.text? = some text) := by
  rcases r with _ | (t | _ | _)
  case cancelled => exact .inl rfl
  case received.closed => exact .inl rfl
  case received.failed => exact .inl rfl
  case received.text =>
    cases isNoise : (Message.decode t).isStart with
    | true => exact .inl (by simp [leadsTo, State.afterMessage, isNoise, State.isTerminal, State.outcome?])
    | false =>
      rcases Nat.lt_or_ge (noise.toNat + 1) (patience ceiling) with early | last
      · exact .inr ⟨early, State.afterMessage_below isNoise early, t, rfl⟩
      · left
        simp only [leadsTo]
        rw [State.afterMessage_last isNoise (by omega)]
        rfl

end Read

namespace Session

/-- What is logged of how a wait on the connection ended. -/
def cause (s : Session) : Read → Record
  | .cancelled =>
    Source.session.record .info "termination requested, closing sockets"
      (("state", .shown s.state.render) :: s.peerField)
  | .received (.text t) => messageRecord t (s.ordinal + 1)
  | .received .closed => Source.session.record .info "peer closed connection" s.peerField
  | .received (.failed e) =>
    Source.session.record .warn "read failed"
      (s.peerField ++ [("error", .shown e.message), ("error_kind", .quoted e.kind)])

def ordinalAfter (s : Session) (r : Read) : UInt32 :=
  match r.text? with
  | some _ => s.ordinal + 1
  | none => s.ordinal

theorem apply_eq {s : Session} {e : Event} {t : State}
    (taken : s.state.next e s.config.ceiling = .ok t) :
    s.apply e = { s with
      state := t, events := s.events ++ [e], log := s.log ++ [transitionRecord s.state t] } := by
  simp only [apply, taken]
  rfl

/-- A session that has logged how a wait on the connection ended. -/
def told (s : Session) (r : Read) : Session :=
  { s with ordinal := s.ordinalAfter r, log := s.log ++ [s.cause r] }

theorem observe_eq_apply (s : Session) (r : Read) : s.observe r = (s.told r).apply r.event := by
  rcases r with _ | (_ | _ | _) <;> rfl

/-- Everything a wait on the connection does to a session that reads. -/
theorem observe_eq {s : Session} {noise : UInt32} (reading : s.state = .reading noise)
    (r : Read) :
    s.observe r = { s with
      state := r.leadsTo noise s.config.ceiling
      events := s.events ++ [r.event]
      ordinal := s.ordinalAfter r
      log := s.log ++ [s.cause r, transitionRecord s.state (r.leadsTo noise s.config.ceiling)] } := by
  have taken : (s.told r).state.next r.event (s.told r).config.ceiling =
      .ok (r.leadsTo noise s.config.ceiling) := by
    show s.state.next r.event s.config.ceiling = _
    rw [reading]
    exact r.next_event noise s.config.ceiling
  rw [observe_eq_apply, apply_eq taken]
  simp [told]

theorem state_observe {s : Session} {noise : UInt32} (reading : s.state = .reading noise)
    (r : Read) : (s.observe r).state = r.leadsTo noise s.config.ceiling := by
  rw [observe_eq reading]

theorem ending_observe {s : Session} {noise : UInt32} (reading : s.state = .reading noise)
    (r : Read) : (s.observe r).ending = s.ending := by
  rw [observe_eq reading]

/-! ## What never changes -/

@[simp] theorem config_apply (s : Session) (e : Event) : (s.apply e).config = s.config := by
  unfold apply
  split <;> rfl

@[simp] theorem config_observe (s : Session) (r : Read) : (s.observe r).config = s.config := by
  rw [observe_eq_apply, config_apply]
  rfl

@[simp] theorem config_close (s : Session) : s.close.config = s.config := by
  unfold close
  split
  · rfl
  · split <;> rfl

@[simp] theorem config_follow (s : Session) (reads : List Read) :
    (s.follow reads).config = s.config := by
  induction reads generalizing s with
  | nil =>
    unfold follow
    split
    · exact s.config_close
    · rfl
  | cons r reads ih =>
    unfold follow
    split
    · rfl
    · split
      · exact s.config_close
      · rw [ih, config_observe]

theorem still_cause (s : Session) (r : Read) : transitionIn? (s.cause r) = none := by
  rcases r with _ | (t | _ | _)
  case received.text => exact transitionIn?_messageRecord t (s.ordinal + 1)
  all_goals exact (aside_of_text (by decide) (by decide)).still

theorem heardIn?_cause (s : Session) (r : Read) :
    heardIn? (s.cause r) = r.text?.map fun text => (text, (s.ordinal + 1).toNat) := by
  rcases r with _ | (t | _ | _)
  case received.text => exact heardIn?_messageRecord t (s.ordinal + 1)
  all_goals exact (aside_of_text (by decide) (by decide)).unheard

/-! ## The beginning of a session -/

def openingRecord (config : Config) (address : SocketAddress) : Record :=
  Source.session.record .info "listening for start signal"
    [("addr", .shown address.render), ("port", .number address.port.toNat),
     ("idle_timeout_secs", .number config.idleTimeout.seconds)]

/-- What is logged of a controller that has connected. -/
def peerRecord (peer : SocketAddress) : Record :=
  Source.session.record .info "controller connected" [("peer", .shown peer.render)]

/-- A session that listens and has met nobody. -/
abbrev fresh (config : Config) (address : SocketAddress) : Session :=
  listening config address .awaitingConnection

/-- A socket that listens can always be waited on. -/
theorem bind_fresh (config : Config) (address : SocketAddress) :
    bind config (.listening address) = .ok (fresh config address) := rfl

/-- A session whose controller has connected reads its first message. -/
theorem connect_fresh (config : Config) (address peer : SocketAddress) :
    (fresh config address).connect peer =
      { fresh config address with
        peer := some peer
        state := .reading 0
        events := [.accepted]
        sockets := [.listening, .connection]
        log := [openingRecord config address, transitionRecord .awaitingConnection (.reading 0),
          peerRecord peer] } := rfl

/-! ## The end of a session -/

theorem follow_ended {s : Session} (ended : s.ending.isSome = true) (reads : List Read) :
    s.follow reads = s := by
  cases reads with
  | nil => simp [follow, close, ended]
  | cons r reads => simp [follow, ended]

theorem going_of_follow {s : Session} {reads : List Read}
    (going : (s.follow reads).ending = none) : s.ending = none := by
  cases ending : s.ending with
  | none => rfl
  | some _ =>
    rw [follow_ended (by simp [ending]), ending] at going
    cases going

theorem ended_close (s : Session) : s.close.ending.isSome = true := by
  unfold close
  by_cases ended : s.ending.isSome = true
  · rw [if_pos ended]
    exact ended
  · rw [if_neg ended]
    cases s.state.outcome? <;> rfl

theorem state_close (s : Session) : s.close.state = s.state := by
  unfold close
  split
  · rfl
  · split <;> rfl

def closingRecord (s : Session) : Record :=
  Source.session.record .info "listener socket closed"
    [("state", .shown s.state.render), ("addr", .shown s.address.render)]

theorem aside_closingRecord (s : Session) : Aside s.closingRecord :=
  aside_of_text (by decide) (by decide)

/-- A session in a terminal state ends in its outcome. -/
theorem close_eq {s : Session} (going : s.ending = none) {o : Outcome}
    (outcome : s.state.outcome? = some o) :
    s.close = { s with
      sockets := [], log := s.log ++ [s.closingRecord], ending := some (.ok o) } := by
  simp only [close, going, outcome]
  rfl

/-! ## Several waits -/

theorem follow_nil {s : Session} {noise : UInt32} (reading : s.state = .reading noise) :
    s.follow [] = s := by
  simp [follow, reading]

/-- A session may pause after any of its waits. -/
theorem follow_append (s : Session) (before after : List Read) :
    s.follow (before ++ after) = (s.follow before).follow after := by
  induction before generalizing s with
  | nil =>
    by_cases terminal : s.state.isTerminal = true
    · have closed : s.follow [] = s.close := by simp [follow, terminal]
      rw [List.nil_append, closed, follow_ended s.ended_close]
      cases after with
      | nil => exact closed
      | cons r reads =>
        by_cases ended : s.ending.isSome = true
        · simp [follow, close, ended]
        · simp [follow, ended, terminal]
    · simp [follow, terminal]
  | cons r before ih =>
    rw [List.cons_append]
    by_cases ended : s.ending.isSome = true
    · rw [follow_ended ended, follow_ended ended, follow_ended ended]
    · by_cases terminal : s.state.isTerminal = true
      · have closed : ∀ reads, s.follow (r :: reads) = s.close := by simp [follow, ended, terminal]
        rw [closed, closed, follow_ended s.ended_close]
      · simp [follow, ended, terminal, ih]

theorem follow_cons (s : Session) (r : Read) (reads : List Read) :
    s.follow (r :: reads) = (s.follow [r]).follow reads :=
  s.follow_append [r] reads

section One

variable {s : Session} {noise : UInt32} (going : s.ending = none)
  (reading : s.state = .reading noise) (r : Read)
include going reading

/-- One wait on the connection, after which a session in a terminal state closes. -/
theorem follow_one : s.follow [r] =
    if (r.leadsTo noise s.config.ceiling).isTerminal then (s.observe r).close
    else s.observe r := by
  simp [follow, going, reading, state_observe reading]

theorem state_follow_one : (s.follow [r]).state = r.leadsTo noise s.config.ceiling := by
  rw [follow_one going reading]
  split
  · rw [state_close, state_observe reading]
  · exact state_observe reading r

theorem ending_follow_one :
    (s.follow [r]).ending = (r.leadsTo noise s.config.ceiling).outcome?.map .ok := by
  have going' : (s.observe r).ending = none := (ending_observe reading r).trans going
  rw [follow_one going reading]
  cases outcome : (r.leadsTo noise s.config.ceiling).outcome? with
  | none => simp [State.isTerminal, outcome, going']
  | some o =>
    have outcome' : (s.observe r).state.outcome? = some o := by
      rw [state_observe reading, outcome]
    simp [State.isTerminal, outcome, close_eq going' outcome']

/-- A wait on the connection is heard of only if it ends with a message. -/
theorem heard_follow_one :
    heard (s.follow [r]).log =
      heard s.log ++ (r.text?.map fun text => (text, (s.ordinal + 1).toNat)).toList := by
  have grown : heard (s.observe r).log =
      heard s.log ++ (r.text?.map fun text => (text, (s.ordinal + 1).toNat)).toList := by
    have silent : heard [transitionRecord s.state (r.leadsTo noise s.config.ceiling)] = [] := by
      simp [heard]
    rw [observe_eq reading]
    show heard (s.log ++ ([s.cause r] ++ [transitionRecord _ _])) = _
    rw [heard_append, heard_append, silent, ← s.heardIn?_cause r]
    cases told : heardIn? (s.cause r) <;> simp [heard, told]
  have going' : (s.observe r).ending = none := (ending_observe reading r).trans going
  rw [follow_one going reading]
  split
  · rename_i terminal
    rw [← state_observe reading] at terminal
    obtain ⟨o, outcome⟩ := Option.isSome_iff_exists.mp terminal
    rw [close_eq going' outcome, heard_append, (aside_closingRecord _).heard_singleton,
      List.append_nil, grown]
  · exact grown

end One

end Session

end StartSignal.Listener
