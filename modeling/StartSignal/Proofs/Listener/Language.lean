/-
# StartSignal.Proofs.Listener.Language -- the language that a listener takes

Of the events that happen to a listener it takes some (`State.taken`) and passes over the
others, which leave it where it is.  The events that it takes spell a word of this language,
or the beginning of one:

    bound listening acceptTimedOut
    bound listening accepted noise^j (start | peerClosed | readFailed)      j < patience
    bound listening accepted noise^j noise                              j + 1 = patience

where `terminationRequested` may stand after any beginning that is not a word already.  An
`OpenWord` is such a beginning, with the state it leads to; a `ClosedWord` is a word, with
the outcome its last event decides.

`takes_of_next` says everything that one step of the machine can be, `spelled_step` that
each step spells one more letter, and `spelled_taken` that every run spells a word so far.
For the converse the machine takes every letter of a word (`run?_openWord`,
`run?_closedWord`).

Main result: `taken_spells`.
-/
import StartSignal.Proofs.Listener.Machine

namespace StartSignal.Listener

/-! ## Words -/

/-- A message of noise, whatever its text. -/
def Event.noise (text : String) : Event := .message (.other text)

/-- The events up to a connection that has brought nothing but noise. -/
def connected (noise : List String) : List Event :=
  [.bound, .listening, .accepted] ++ noise.map Event.noise

/-- Events that a listener takes and that do not end it, and where they lead. -/
inductive OpenWord (patience : Nat) : List Event → State → Prop where
  | idle : OpenWord patience [] .idle
  | bound : OpenWord patience [.bound] .bound
  | listening : OpenWord patience [.bound, .listening] .awaitingConnection
  | reading {noise : List String} {count : UInt32} (few : noise.length < patience)
      (counted : count.toNat = noise.length) :
    OpenWord patience (connected noise) (.reading count)

/-- Events that a listener takes and the last of which ends it, and how it ends. -/
inductive ClosedWord (patience : Nat) : List Event → Outcome → Prop where
  | acceptTimedOut : ClosedWord patience [.bound, .listening, .acceptTimedOut] .timedOut
  | start {noise : List String} (few : noise.length < patience) :
    ClosedWord patience (connected noise ++ [.message .start]) (.released .startReceived)
  | peerClosed {noise : List String} (few : noise.length < patience) :
    ClosedWord patience (connected noise ++ [.peerClosed]) (.released .peerClosed)
  | readFailed {noise : List String} (few : noise.length < patience) :
    ClosedWord patience (connected noise ++ [.readFailed]) (.released .readFailed)
  | ceiling {noise : List String} {text : String} (last : noise.length + 1 = patience) :
    ClosedWord patience (connected noise ++ [.noise text]) (.released .ceilingReached)
  | terminated {w : List Event} {s : State} (opened : OpenWord patience w s) :
    ClosedWord patience (w ++ [.terminationRequested]) .terminated

/-- A word so far, and the state it leads to. -/
inductive Spelled (patience : Nat) (w : List Event) (s : State) : Prop where
  | opened (word : OpenWord patience w s)
  | closed {o : Outcome} (word : ClosedWord patience w o) (outcome : s.outcome? = some o)

theorem OpenWord.isTerminal {patience : Nat} {w : List Event} {s : State}
    (word : OpenWord patience w s) : s.isTerminal = false := by
  cases word <;> rfl

/-- The exit status is that of the event that closes the word. -/
theorem ClosedWord.exitCode {patience : Nat} {w : List Event} {o : Outcome}
    (word : ClosedWord patience w o) :
    o.exitCode = if w.getLast? = some .terminationRequested then 143 else 0 := by
  cases word <;> simp [Outcome.exitCode, terminatedExitCode, Event.noise]

namespace State

variable {ceiling : UInt32} {s t : State}

/-! ## One step -/

/-- Everything that a step of the machine can be. -/
inductive Takes (ceiling : UInt32) : State → Event → State → Prop where
  | bound : Takes ceiling .idle .bound .bound
  | listening : Takes ceiling .bound .listening .awaitingConnection
  | accepted : Takes ceiling .awaitingConnection .accepted (.reading 0)
  | acceptTimedOut : Takes ceiling .awaitingConnection .acceptTimedOut .timedOut
  | message (noise : UInt32) (m : Message) :
    Takes ceiling (.reading noise) (.message m) (afterMessage noise m ceiling)
  | peerClosed (noise : UInt32) : Takes ceiling (.reading noise) .peerClosed (.released .peerClosed)
  | readFailed (noise : UInt32) : Takes ceiling (.reading noise) .readFailed (.released .readFailed)
  | terminated {s : State} (going : s.isTerminal = false) :
    Takes ceiling s .terminationRequested .terminated

theorem takes_of_next {e : Event} (taken : s.next e ceiling = .ok t) : Takes ceiling s e t := by
  cases s with
  | idle => cases e <;> cases taken <;> first | exact .bound | exact .terminated rfl
  | bound => cases e <;> cases taken <;> first | exact .listening | exact .terminated rfl
  | awaitingConnection =>
    cases e <;> cases taken <;>
      first | exact .accepted | exact .acceptTimedOut | exact .terminated rfl
  | reading noise =>
    cases e <;> cases taken <;>
      first
      | exact .message noise _
      | exact .peerClosed noise
      | exact .readFailed noise
      | exact .terminated rfl
  | released _ | timedOut | terminated => cases e <;> cases taken

/-- A terminal state takes no event. -/
theorem next_terminal (finished : s.isTerminal = true) (e : Event) (ceiling : UInt32) :
    s.next e ceiling = .error ⟨s.name, e.name⟩ := by
  cases s with
  | released _ | timedOut | terminated => cases e <;> rfl
  | _ => cases finished

/-! ## Runs in which events are passed over -/

/-- The events that are taken, in order, when the others leave the state as it is. -/
def taken (ceiling : UInt32) : State → List Event → List Event
  | _, [] => []
  | s, e :: es =>
    match s.next e ceiling with
    | .ok t => e :: taken ceiling t es
    | .error _ => taken ceiling s es

/-- The state after events that are taken or passed over. -/
def reached (ceiling : UInt32) (s : State) (es : List Event) : State :=
  es.foldl (fun s e => s.after e ceiling) s

theorem taken_cons_ok {e : Event} (ok : s.next e ceiling = .ok t) (es : List Event) :
    taken ceiling s (e :: es) = e :: taken ceiling t es := by
  simp only [taken, ok]

theorem taken_cons_error {e : Event} {i : InvalidTransition}
    (refused : s.next e ceiling = .error i) (es : List Event) :
    taken ceiling s (e :: es) = taken ceiling s es := by
  simp only [taken, refused]

theorem reached_cons_ok {e : Event} (ok : s.next e ceiling = .ok t) (es : List Event) :
    reached ceiling s (e :: es) = reached ceiling t es := by
  simp only [reached, List.foldl_cons, after, ok]

theorem reached_cons_error {e : Event} {i : InvalidTransition}
    (refused : s.next e ceiling = .error i) (es : List Event) :
    reached ceiling s (e :: es) = reached ceiling s es := by
  simp only [reached, List.foldl_cons, after, refused]

/-- The events taken lead where all the events lead. -/
theorem run?_taken (ceiling : UInt32) (s : State) (es : List Event) :
    run? ceiling s (taken ceiling s es) = .ok (reached ceiling s es) := by
  induction es generalizing s with
  | nil => rfl
  | cons e es ih =>
    cases next : s.next e ceiling with
    | ok t =>
      rw [taken_cons_ok next, reached_cons_ok next, run?_cons, next]
      exact ih t
    | error i =>
      rw [taken_cons_error next, reached_cons_error next]
      exact ih s

/-- Of a run in which every event is taken, every beginning is taken. -/
theorem taken_of_run? {es : List Event} (ran : run? ceiling s es = .ok t) {w : List Event}
    (beginning : w <+: es) : taken ceiling s w = w := by
  induction w generalizing s es with
  | nil => rfl
  | cons e w ih =>
    obtain ⟨rest, rfl⟩ := beginning
    obtain ⟨u, next, ran⟩ := exists_of_run?_cons ran
    rw [taken_cons_ok next, ih ran (List.prefix_append w rest)]

theorem taken_append (ceiling : UInt32) (s : State) (es more : List Event) :
    taken ceiling s (es ++ more) =
      taken ceiling s es ++ taken ceiling (reached ceiling s es) more := by
  induction es generalizing s with
  | nil => rfl
  | cons e es ih =>
    rw [List.cons_append]
    cases next : s.next e ceiling with
    | ok t =>
      rw [taken_cons_ok next, taken_cons_ok next, reached_cons_ok next, ih t, List.cons_append]
    | error i =>
      rw [taken_cons_error next, taken_cons_error next, reached_cons_error next, ih s]

/-- After the end of a listener nothing is taken. -/
theorem taken_terminal (finished : s.isTerminal = true) (es : List Event) :
    taken ceiling s es = [] := by
  induction es with
  | nil => rfl
  | cons e es ih => rw [taken_cons_error (next_terminal finished e ceiling), ih]

/-! ## Every run spells a word so far -/

theorem connected_concat (noise : List String) (text : String) :
    connected noise ++ [.noise text] = connected (noise ++ [text]) := by
  simp [connected]

/-- Noise after noise is counted, or is the last that is borne. -/
theorem spelled_noise {noise : List String} {count : UInt32} {text : String}
    (few : noise.length < patience ceiling) (counted : count.toNat = noise.length) :
    Spelled (patience ceiling) (connected noise ++ [.noise text])
      (afterMessage count (.other text) ceiling) := by
  rcases Nat.lt_or_ge (noise.length + 1) (patience ceiling) with early | late
  · have below : count.toNat < patience ceiling := by omega
    rw [afterMessage_below rfl (by omega), connected_concat]
    refine .opened (.reading ?_ ?_)
    · simpa using early
    · rw [toNat_succ below, counted]
      simp
  · have last : noise.length + 1 = patience ceiling := by omega
    rw [afterMessage_last rfl (by omega)]
    exact .closed (.ceiling last) rfl

/-- Each step spells one more letter. -/
theorem spelled_step {w : List Event} {e : Event} (spelled : Spelled (patience ceiling) w s)
    (takes : Takes ceiling s e t) : Spelled (patience ceiling) (w ++ [e]) t := by
  cases spelled with
  | closed word outcome =>
    -- A word that is closed has led to a state that takes nothing.
    have finished := isTerminal_of_outcome outcome
    cases takes with
    | terminated going => rw [finished] at going; cases going
    | _ => cases finished
  | opened word =>
    cases takes with
    | terminated going => exact .closed (.terminated word) rfl
    | bound => cases word; exact .opened .bound
    | listening => cases word; exact .opened .listening
    | accepted =>
      cases word
      have silent : OpenWord (patience ceiling) (connected []) (.reading 0) :=
        .reading (patience_pos ceiling) rfl
      exact .opened silent
    | acceptTimedOut => cases word; exact .closed .acceptTimedOut rfl
    | peerClosed count => cases word with | reading few _ => exact .closed (.peerClosed few) rfl
    | readFailed count => cases word with | reading few _ => exact .closed (.readFailed few) rfl
    | message count m =>
      cases word with
      | reading few counted =>
        cases m with
        | start => exact .closed (.start few) rfl
        | other text => exact spelled_noise few counted

/-- What is taken spells on from the word so far. -/
theorem spelled_taken {w : List Event} (spelled : Spelled (patience ceiling) w s)
    (es : List Event) :
    Spelled (patience ceiling) (w ++ taken ceiling s es) (reached ceiling s es) := by
  induction es generalizing s w with
  | nil =>
    rw [taken, List.append_nil]
    exact spelled
  | cons e es ih =>
    cases next : s.next e ceiling with
    | ok t =>
      rw [taken_cons_ok next, reached_cons_ok next, ← List.singleton_append, ← List.append_assoc]
      exact ih (spelled_step spelled (takes_of_next next))
    | error i =>
      rw [taken_cons_error next, reached_cons_error next]
      exact ih spelled

/-! ## Every word is taken -/

theorem run?_noise {count : UInt32} {noise : List String}
    (few : count.toNat + noise.length < patience ceiling) :
    ∃ count' : UInt32, run? ceiling (.reading count) (noise.map Event.noise) =
        .ok (.reading count') ∧ count'.toNat = count.toNat + noise.length := by
  induction noise generalizing count with
  | nil => exact ⟨count, rfl, rfl⟩
  | cons text noise ih =>
    rw [List.length_cons] at few
    have below : count.toNat < patience ceiling := by omega
    have counted := toNat_succ below
    have few' : (count + 1).toNat + noise.length < patience ceiling := by omega
    obtain ⟨count', ran, sum⟩ := ih few'
    refine ⟨count', ?_, by rw [sum, counted, List.length_cons]; omega⟩
    have step : (State.reading count).next (.noise text) ceiling = .ok (.reading (count + 1)) := by
      show Except.ok (afterMessage count (.other text) ceiling) = _
      rw [afterMessage_below rfl (by omega)]
    rw [List.map_cons, run?_cons, step]
    exact ran

theorem run?_connected {noise : List String} (few : noise.length < patience ceiling) :
    ∃ count : UInt32, run? ceiling .idle (connected noise) = .ok (.reading count) ∧
      count.toNat = noise.length := by
  have few' : (0 : UInt32).toNat + noise.length < patience ceiling := by simpa using few
  obtain ⟨count, ran, sum⟩ := run?_noise few'
  exact ⟨count, ran, by simpa using sum⟩

/-- An open word is taken in full and leads to its state. -/
theorem run?_openWord {w : List Event} (word : OpenWord (patience ceiling) w s) :
    run? ceiling .idle w = .ok s := by
  cases word with
  | reading few counted =>
    obtain ⟨count', ran, sum⟩ := run?_connected few
    have same : count' = _ := UInt32.toNat_inj.mp (sum.trans counted.symm)
    rw [ran, same]
  | _ => rfl

/-- A closed word is taken in full and leads to its outcome. -/
theorem run?_closedWord {w : List Event} {o : Outcome}
    (word : ClosedWord (patience ceiling) w o) :
    ∃ t, run? ceiling .idle w = .ok t ∧ t.outcome? = some o := by
  cases word with
  | acceptTimedOut => exact ⟨.timedOut, rfl, rfl⟩
  | start few | peerClosed few | readFailed few =>
    obtain ⟨count, ran, -⟩ := run?_connected few
    exact ⟨_, run?_concat ran rfl, rfl⟩
  | @ceiling noise text last =>
    have few : noise.length < patience ceiling := by omega
    obtain ⟨count, ran, sum⟩ := run?_connected few
    refine ⟨.released .ceilingReached, run?_concat ran ?_, rfl⟩
    exact congrArg Except.ok (afterMessage_last rfl (by omega))
  | terminated opened =>
    refine ⟨.terminated, run?_concat (run?_openWord opened) ?_, rfl⟩
    cases opened <;> rfl

/-! ## Main result -/

/-- **The events that a listener takes spell a word or the beginning of one**, and every word is
taken in full, with all its beginnings.  The listener is over exactly when the word is closed;
then its outcome and its exit status are those of the event that closed it, and nothing more is
taken.  A connection that has brought less noise than it may leaves the listener reading, with
the noise counted. -/
theorem taken_spells (ceiling : UInt32) (es : List Event) :
    (∃ v o, ClosedWord (patience ceiling) v o ∧ taken ceiling .idle es <+: v) ∧
    (∀ v o, ClosedWord (patience ceiling) v o → ∀ w, w <+: v → taken ceiling .idle w = w) ∧
    ((reached ceiling .idle es).isTerminal = true ↔
      ∃ o, ClosedWord (patience ceiling) (taken ceiling .idle es) o) ∧
    (∀ o, ClosedWord (patience ceiling) (taken ceiling .idle es) o →
      (reached ceiling .idle es).outcome? = some o ∧
      (o.exitCode =
        if (taken ceiling .idle es).getLast? = some .terminationRequested then 143 else 0) ∧
      ∀ more, taken ceiling .idle (es ++ more) = taken ceiling .idle es) ∧
    (∀ noise, noise.length < patience ceiling → taken ceiling .idle es = connected noise →
      ∃ count : UInt32, reached ceiling .idle es = .reading count ∧
        count.toNat = noise.length) := by
  have spelled : Spelled (patience ceiling) (taken ceiling .idle es) (reached ceiling .idle es) :=
    spelled_taken (.opened .idle) es
  have ran := run?_taken ceiling .idle es
  have closes : ∀ o, ClosedWord (patience ceiling) (taken ceiling .idle es) o →
      (reached ceiling .idle es).outcome? = some o := by
    intro o word
    obtain ⟨t, ran', outcome⟩ := run?_closedWord word
    rw [ran, Except.ok.injEq] at ran'
    rw [ran']
    exact outcome
  refine ⟨?_, ?_, ?_, ?_, ?_⟩
  case refine_1 =>
    cases spelled with
    | opened word => exact ⟨_, _, .terminated word, List.prefix_append _ _⟩
    | closed word _ => exact ⟨_, _, word, List.prefix_refl _⟩
  case refine_2 =>
    intro v o word w beginning
    obtain ⟨t, ran', -⟩ := run?_closedWord word
    exact taken_of_run? ran' beginning
  case refine_3 =>
    constructor
    · intro finished
      cases spelled with
      | opened word => rw [word.isTerminal] at finished; cases finished
      | closed word _ => exact ⟨_, word⟩
    · rintro ⟨o, word⟩
      exact isTerminal_of_outcome (closes o word)
  case refine_4 =>
    intro o word
    refine ⟨closes o word, word.exitCode, fun more => ?_⟩
    rw [taken_append, taken_terminal (isTerminal_of_outcome (closes o word)), List.append_nil]
  case refine_5 =>
    intro noise few same
    obtain ⟨count, ran', counted⟩ := run?_connected few
    rw [same, ran', Except.ok.injEq] at ran
    exact ⟨count, ran.symm, counted⟩

end State

end StartSignal.Listener
