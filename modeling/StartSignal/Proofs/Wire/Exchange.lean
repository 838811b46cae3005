/-
# StartSignal.Proofs.Wire.Exchange -- nothing is lost between the ends of a pipe

A direction of a pipe is named by the end that writes into it; the end across reads.  A message
is sent by writing the bytes of its text, all of them or as many as there is room for.  What a
write puts in (`Pipe.accepted`) is as much of it as there is room for, and what a receive takes
out (`Pipe.handed`) is as much of what is there as a message holds, from the front.  What can
come of an action is said once (`does_step`).  An end that acts moves bytes in one of the two
directions at most (`outgoing_step_own`, `outgoing_step_across`), so each step keeps the books of
a direction:

    buffered before ++ accepted = handed ++ buffered after             (`balanced_step`)

and so do all steps together (`balanced_run`).  What is handed over is what the reader is told
(`text?_step`, `texts_run`), and no buffer grows beyond the capacity (`bounded_run`).

Main result: `exchange_conserves`.
-/
import StartSignal.Wire.Pipe

namespace StartSignal.Wire

@[simp] theorem End.other_other (e : End) : e.other.other = e := by
  cases e <;> rfl

theorem End.other_ne (e : End) : e.other ≠ e := by
  cases e <;> simp [End.other]

theorem End.eq_or_eq_other (d e : End) : e = d ∨ e = d.other := by
  cases d <;> cases e <;> simp [End.other]

def Result.text? : Result → Option String
  | .received (.text t) => some t
  | _ => none

namespace Pipe

variable {p : Pipe} {d e : End}

/-! ## Sides -/

@[simp] theorem side_setSide (p : Pipe) (e : End) (s : Side) : (p.setSide e s).side e = s := by
  cases e <;> rfl

theorem side_setSide_ne (p : Pipe) (s : Side) (apart : d ≠ e) :
    (p.setSide e s).side d = p.side d := by
  cases d <;> cases e <;> first | rfl | exact absurd rfl apart

@[simp] theorem setSide_side (p : Pipe) (e : End) : p.setSide e (p.side e) = p := by
  cases e <;> rfl

@[simp] theorem capacity_setSide (p : Pipe) (e : End) (s : Side) :
    (p.setSide e s).capacity = p.capacity := by
  cases e <;> rfl

/-! ## What each action does -/

theorem step_gone (gone : (p.side e).present = false) (action : Action) :
    p.step e action = (.dropped, p) := by
  simp [step, gone]

theorem step_drop (here : (p.side e).present = true) :
    p.step e .drop = (.dropped, p.setSide e { p.side e with present := false }) := by
  simp [step, here]

theorem step_receive_empty (here : (p.side e).present = true)
    (nothing : (p.side e.other).outgoing = []) :
    p.step e .receive =
      (if (p.side e.other).present then .pending else .received .closed, p) := by
  simp [step, here, receive, nothing]

theorem step_receive_message (here : (p.side e).present = true)
    (something : (p.side e.other).outgoing ≠ []) :
    p.step e .receive =
      (.received (.text (Text.Utf8.text ((p.side e.other).outgoing.take maxMessageBytes))),
        p.setSide e.other { p.side e.other with
          outgoing := (p.side e.other).outgoing.drop maxMessageBytes }) := by
  have taken : ((p.side e.other).outgoing.take maxMessageBytes).isEmpty = false := by
    simpa [maxMessageBytes] using something
  simp [step, here, receive, something, Reception.ofBytes, taken]

theorem step_write_nothing (here : (p.side e).present = true) :
    p.step e (.write []) = (.sent, p) := by
  simp [step, here, write]

theorem step_write_refused (here : (p.side e).present = true)
    (gone : (p.side e.other).present = false) {bytes : List UInt8} (something : bytes ≠ []) :
    p.step e (.write bytes) = (.failed ⟨⟨.brokenPipe, none⟩⟩, p) := by
  simp [step, here, write, something, gone]

/-- The bytes that there is room for at an end. -/
def room (p : Pipe) (e : End) : Nat := p.capacity - (p.side e).outgoing.length

theorem step_write (here : (p.side e).present = true) (there : (p.side e.other).present = true)
    (bytes : List UInt8) :
    p.step e (.write bytes) =
      (if bytes.length ≤ p.room e then .sent else .pending,
        p.setSide e { p.side e with outgoing := (p.side e).outgoing ++ bytes.take (p.room e) }) := by
  cases bytes with
  | nil =>
    have fits : ([] : List UInt8).length ≤ p.room e := Nat.zero_le _
    rw [step_write_nothing here, if_pos fits, List.take_nil, List.append_nil]
    exact congrArg _ (setSide_side p e).symm
  | cons b bytes =>
    have fits : ((b :: bytes).take (p.room e)).length = (b :: bytes).length ↔
        (b :: bytes).length ≤ p.room e := by
      rw [List.length_take]
      omega
    unfold room at fits ⊢
    simp only [step, here, write, there, Bool.not_true, Bool.false_eq_true, if_false,
      List.isEmpty_cons, fits]

/-- What comes of an action at an end, and the pipe after it. -/
inductive Does (p : Pipe) (e : End) : Action → Result × Pipe → Prop where
  | gone (action : Action) (gone : (p.side e).present = false) : Does p e action (.dropped, p)
  | drop (here : (p.side e).present = true) :
    Does p e .drop (.dropped, p.setSide e { p.side e with present := false })
  | empty (here : (p.side e).present = true) (nothing : (p.side e.other).outgoing = []) :
    Does p e .receive (if (p.side e.other).present then .pending else .received .closed, p)
  | message (here : (p.side e).present = true) (something : (p.side e.other).outgoing ≠ []) :
    Does p e .receive
      (.received (.text (Text.Utf8.text ((p.side e.other).outgoing.take maxMessageBytes))),
        p.setSide e.other { p.side e.other with
          outgoing := (p.side e.other).outgoing.drop maxMessageBytes })
  | nothing (here : (p.side e).present = true) : Does p e (.write []) (.sent, p)
  | refused {bytes : List UInt8} (here : (p.side e).present = true)
    (gone : (p.side e.other).present = false) (something : bytes ≠ []) :
    Does p e (.write bytes) (.failed ⟨⟨.brokenPipe, none⟩⟩, p)
  | written (bytes : List UInt8) (here : (p.side e).present = true)
    (there : (p.side e.other).present = true) :
    Does p e (.write bytes) (if bytes.length ≤ p.room e then .sent else .pending,
      p.setSide e { p.side e with outgoing := (p.side e).outgoing ++ bytes.take (p.room e) })

theorem does_step (p : Pipe) (e : End) (action : Action) : p.Does e action (p.step e action) := by
  cases here : (p.side e).present with
  | false => rw [step_gone here]; exact .gone action here
  | true =>
    cases action with
    | drop => rw [step_drop here]; exact .drop here
    | receive =>
      by_cases nothing : (p.side e.other).outgoing = []
      · rw [step_receive_empty here nothing]; exact .empty here nothing
      · rw [step_receive_message here nothing]; exact .message here nothing
    | write bytes =>
      cases there : (p.side e.other).present with
      | true => rw [step_write here there]; exact .written bytes here there
      | false =>
        by_cases nothing : bytes = []
        · subst nothing; rw [step_write_nothing here]; exact .nothing here
        · rw [step_write_refused here there nothing]; exact .refused here there nothing

/-! ## The books of a direction -/

/-- The bytes that a step accepts from a writer at an end. -/
def accepted (p : Pipe) (d : End) : End × Action → List UInt8
  | (e, .write bytes) =>
    if e = d ∧ (p.side d).present ∧ (p.side d.other).present then bytes.take (p.room d) else []
  | _ => []

/-- The bytes that a step hands to a reader at an end. -/
def handed (p : Pipe) (d : End) : End × Action → List UInt8
  | (e, .receive) =>
    if e = d ∧ (p.side d).present then (p.side d.other).outgoing.take maxMessageBytes else []
  | _ => []

theorem accepted_across (p : Pipe) (d : End) (action : Action) :
    p.accepted d (d.other, action) = [] := by
  cases action <;> simp [accepted, d.other_ne]

theorem handed_across (p : Pipe) (d : End) (action : Action) :
    p.handed d.other (d, action) = [] := by
  cases action <;> simp [handed, Ne.symm d.other_ne]

/-- An end puts what is accepted from it at the back of its own buffer. -/
theorem outgoing_step_own (p : Pipe) (d : End) (action : Action) :
    ((p.step d action).2.side d).outgoing = (p.side d).outgoing ++ p.accepted d (d, action) := by
  have apart := Ne.symm d.other_ne
  have does := p.does_step d action
  generalize p.step d action = after at does ⊢
  cases does with
  | gone _ gone => cases action <;> simp [accepted, gone]
  | drop here => simp [accepted]
  | empty here nothing => simp [accepted]
  | message here something => simp [accepted, side_setSide_ne _ _ apart]
  | nothing here => simp [accepted]
  | refused here gone something => simp [accepted, gone]
  | written bytes here there => simp [accepted, here, there]

/-- What an end is handed comes from the front of the buffer across. -/
theorem outgoing_step_across (p : Pipe) (d : End) (action : Action) :
    (p.side d).outgoing = p.handed d.other (d.other, action) ++
      ((p.step d.other action).2.side d).outgoing := by
  have apart := Ne.symm d.other_ne
  have does := p.does_step d.other action
  generalize p.step d.other action = after at does ⊢
  cases does with
  | gone _ gone => cases action <;> simp [handed, gone]
  | drop here => simp [handed, side_setSide_ne _ _ apart]
  | empty here nothing =>
    rw [End.other_other] at nothing
    simp [handed, nothing]
  | message here something => simp [handed, here]
  | nothing here => simp [handed]
  | refused here gone something => simp [handed]
  | written bytes here there => simp [handed, side_setSide_ne _ _ apart]

theorem balanced_step (p : Pipe) (d : End) (s : End × Action) :
    (p.side d).outgoing ++ p.accepted d s =
      p.handed d.other s ++ ((p.step s.1 s.2).2.side d).outgoing := by
  obtain ⟨e, action⟩ := s
  rcases d.eq_or_eq_other e with rfl | rfl
  · rw [handed_across, List.nil_append, outgoing_step_own]
  · rw [accepted_across, List.append_nil]
    exact p.outgoing_step_across d action

theorem capacity_step (p : Pipe) (e : End) (action : Action) :
    (p.step e action).2.capacity = p.capacity := by
  have does := p.does_step e action
  generalize p.step e action = after at does ⊢
  cases does with
  | drop | message | written => exact capacity_setSide _ _ _
  | gone | empty | nothing | refused => rfl

/-- Neither direction holds more than the capacity. -/
def Bounded (p : Pipe) : Prop := ∀ d, (p.side d).outgoing.length ≤ p.capacity

theorem Bounded.step (bounded : p.Bounded) (e : End) (action : Action) :
    (p.step e action).2.Bounded := by
  intro d
  have before := bounded d
  rw [capacity_step]
  rcases d.eq_or_eq_other e with rfl | rfl
  · have grown : (p.accepted e (e, action)).length ≤ p.room e := by
      cases action with
      | write bytes =>
        simp only [accepted]
        split
        · exact List.length_take_le _ _
        · exact Nat.zero_le _
      | _ => exact Nat.zero_le _
    rw [outgoing_step_own, List.length_append]
    unfold room at grown
    omega
  · have same := congrArg List.length (p.outgoing_step_across d action)
    rw [List.length_append] at same
    omega

/-- A reader is told what it is handed, and nothing else. -/
theorem text?_step (p : Pipe) (d : End) (s : End × Action) :
    (if s.1 = d then (p.step s.1 s.2).1.text? else none) =
      if p.handed d s = [] then none else some (Text.Utf8.text (p.handed d s)) := by
  obtain ⟨e, action⟩ := s
  by_cases own : e = d
  · subst own
    rw [if_pos rfl]
    have does := p.does_step e action
    generalize p.step e action = after at does ⊢
    cases does with
    | gone _ gone => cases action <;> simp [handed, gone, Result.text?]
    | drop here => simp [handed, Result.text?]
    | empty here nothing => split <;> simp [handed, here, nothing, Result.text?]
    | message here something => simp [handed, here, something, maxMessageBytes, Result.text?]
    | nothing here => simp [handed, Result.text?]
    | refused here gone something => simp [handed, Result.text?]
    | written bytes here there => split <;> simp [handed, Result.text?]
  · rw [if_neg own]
    cases action <;> simp [handed, own]

/-! ## Many steps -/

/-- The bytes accepted from an end in the course of some steps. -/
def acceptedBy (d : End) : Pipe → List (End × Action) → List UInt8
  | _, [] => []
  | p, s :: steps => p.accepted d s ++ acceptedBy d (p.step s.1 s.2).2 steps

/-- The bytes handed to an end in the course of some steps, message by message. -/
def handedTo (d : End) : Pipe → List (End × Action) → List (List UInt8)
  | _, [] => []
  | p, s :: steps =>
    (if p.handed d s = [] then [] else [p.handed d s]) ++ handedTo d (p.step s.1 s.2).2 steps

/-- The messages that an end receives in the course of some steps. -/
def textsAt (d : End) (steps : List (End × Action)) (results : List Result) : List String :=
  (steps.zip results).filterMap fun s => if s.1.1 = d then s.2.text? else none

theorem run_cons (p : Pipe) (s : End × Action) (steps : List (End × Action)) :
    p.run (s :: steps) = ((p.step s.1 s.2).1 :: ((p.step s.1 s.2).2.run steps).1,
      ((p.step s.1 s.2).2.run steps).2) := rfl

theorem capacity_run (p : Pipe) (steps : List (End × Action)) :
    (p.run steps).2.capacity = p.capacity := by
  induction steps generalizing p with
  | nil => rfl
  | cons s steps ih => rw [run_cons, ih, capacity_step]

theorem bounded_run (bounded : p.Bounded) (steps : List (End × Action)) :
    (p.run steps).2.Bounded := by
  induction steps generalizing p with
  | nil => exact bounded
  | cons s steps ih => exact ih (bounded.step s.1 s.2)

theorem balanced_run (p : Pipe) (d : End) (steps : List (End × Action)) :
    (p.side d).outgoing ++ acceptedBy d p steps =
      (handedTo d.other p steps).flatten ++ ((p.run steps).2.side d).outgoing := by
  induction steps generalizing p with
  | nil => simp [acceptedBy, handedTo, run]
  | cons s steps ih =>
    have first : (if p.handed d.other s = [] then [] else [p.handed d.other s]).flatten =
        p.handed d.other s := by
      split <;> simp [*]
    rw [acceptedBy, handedTo, run_cons, List.flatten_append, first, ← List.append_assoc,
      balanced_step, List.append_assoc, List.append_assoc, ih]

theorem texts_run (p : Pipe) (d : End) (steps : List (End × Action)) :
    textsAt d steps (p.run steps).1 = (handedTo d p steps).map Text.Utf8.text := by
  induction steps generalizing p with
  | nil => rfl
  | cons s steps ih =>
    have told := p.text?_step d s
    rw [handedTo, run_cons, List.map_append, ← ih, textsAt, List.zip_cons_cons]
    split at told
    · rename_i own
      by_cases nothing : p.handed d s = []
      · rw [if_pos nothing] at told ⊢
        exact List.filterMap_cons_none (by rw [if_pos own, told])
      · rw [if_neg nothing] at told ⊢
        exact List.filterMap_cons_some (by rw [if_pos own, told])
    · rename_i other
      by_cases nothing : p.handed d s = []
      · rw [if_pos nothing]
        exact List.filterMap_cons_none (by rw [if_neg other])
      · rw [if_neg nothing] at told
        cases told

/-! ## Main result -/

/-- What has passed in a direction of a pipe in the course of some steps. -/
structure Passed (p : Pipe) (d : End) (steps : List (End × Action)) : Prop where
  /-- What has been accepted has been handed over or is still there, in order. -/
  conserved : acceptedBy d p steps =
    (handedTo d.other p steps).flatten ++ ((p.run steps).2.side d).outgoing
  bounded : ((p.run steps).2.side d).outgoing.length ≤ p.capacity
  /-- The reader has received the text of what it was handed, message by message. -/
  told : textsAt d.other steps (p.run steps).1 = (handedTo d.other p steps).map Text.Utf8.text

/-- A write to an end that exists has been accepted, or as much of it as fills the buffer. -/
inductive Written (p : Pipe) (d : End) (bytes : List UInt8) : Prop where
  | whole (sent : (p.step d (.write bytes)).1 = .sent)
    (all : p.accepted d (d, .write bytes) = bytes)
  | part {rest : List UInt8} (pending : (p.step d (.write bytes)).1 = .pending)
    (first : bytes = p.accepted d (d, .write bytes) ++ rest) (left : rest ≠ [])
    (full : ((p.step d (.write bytes)).2.side d).outgoing.length = p.capacity)

/-- What the next action in a direction of a pipe comes to, while its end exists. -/
structure Answers (p : Pipe) (d : End) : Prop where
  /-- A receive takes from the front as much of what is there as a message holds. -/
  message : (p.side d.other).present = true → (p.side d).outgoing ≠ [] →
    ∃ bytes rest, (p.side d).outgoing = bytes ++ rest ∧
      bytes.length = min maxMessageBytes (p.side d).outgoing.length ∧
      p.handed d.other (d.other, .receive) = bytes ∧
      p.step d.other .receive = (.received (.text (Text.Utf8.text bytes)),
        p.setSide d { p.side d with outgoing := rest })
  closed : (p.side d.other).present = true →
    ((p.step d.other .receive).1 = .received .closed ↔
      (p.side d).outgoing = [] ∧ (p.side d).present = false)
  pending : (p.side d.other).present = true →
    ((p.step d.other .receive).1 = .pending ↔
      (p.side d).outgoing = [] ∧ (p.side d).present = true)
  /-- A write to an end that is gone fails, and nothing of it is accepted. -/
  refused : (p.side d).present = true → (p.side d.other).present = false → ∀ bytes, bytes ≠ [] →
    p.step d (.write bytes) = (.failed ⟨⟨.brokenPipe, none⟩⟩, p) ∧
      p.accepted d (d, .write bytes) = []
  written : (p.side d).present = true → (p.side d.other).present = true → ∀ bytes,
    p.Written d bytes

theorem Bounded.written (bounded : p.Bounded) (here : (p.side d).present = true)
    (there : (p.side d.other).present = true) (bytes : List UInt8) : p.Written d bytes := by
  have taken : p.accepted d (d, .write bytes) = bytes.take (p.room d) := by
    simp [accepted, here, there]
  have step := step_write here there bytes
  have within := bounded d
  by_cases fits : bytes.length ≤ p.room d
  · refine .whole ?_ (taken.trans (List.take_of_length_le fits))
    rw [step, if_pos fits]
  · have first : bytes = p.accepted d (d, .write bytes) ++ bytes.drop (p.room d) := by
      rw [taken, List.take_append_drop]
    refine .part ?_ first ?_ ?_
    · rw [step, if_neg fits]
    · rw [Ne, List.drop_eq_nil_iff]
      exact fits
    · rw [step, side_setSide, List.length_append, List.length_take]
      unfold room at fits ⊢
      omega

theorem Bounded.answers (bounded : p.Bounded) (d : End) : Answers p d where
  message := by
    intro here something
    refine ⟨_, _, (List.take_append_drop maxMessageBytes _).symm, List.length_take, ?_, ?_⟩
    · simp [handed, here]
    · rw [step_receive_message here (by rwa [End.other_other]), End.other_other]
  closed := by
    intro here
    by_cases nothing : (p.side d).outgoing = []
    · rw [step_receive_empty here (by rwa [End.other_other]), End.other_other]
      cases (p.side d).present <;> simp [nothing]
    · rw [step_receive_message here (by rwa [End.other_other])]
      simp [nothing]
  pending := by
    intro here
    by_cases nothing : (p.side d).outgoing = []
    · rw [step_receive_empty here (by rwa [End.other_other]), End.other_other]
      cases (p.side d).present <;> simp [nothing]
    · rw [step_receive_message here (by rwa [End.other_other])]
      simp [nothing]
  refused := by
    intro here gone bytes something
    exact ⟨step_write_refused here gone something, by simp [accepted, gone]⟩
  written := bounded.written

/-- **A pipe of any capacity loses, duplicates and reorders nothing**, whatever is done at its
ends, and in whatever turns.  In each direction, what has been accepted from the writer is what
has been handed to the reader followed by what is still there, and that is no more than the
capacity.  What the next action comes to is decided by what is there and by the presence of the
ends. -/
theorem exchange_conserves (capacity : Nat) (steps : List (End × Action)) (d : End) :
    Passed (empty capacity) d steps ∧ Answers ((empty capacity).run steps).2 d := by
  have bounded : (empty capacity).Bounded := by
    intro d
    cases d <;> exact Nat.zero_le _
  have nothing : ((empty capacity).side d).outgoing = [] := by
    cases d <;> rfl
  have within := bounded_run bounded steps
  refine ⟨⟨?_, ?_, texts_run _ _ _⟩, within.answers d⟩
  · have balanced := balanced_run (empty capacity) d steps
    rwa [nothing, List.nil_append] at balanced
  · have most := within d
    rwa [capacity_run] at most

end Pipe

end StartSignal.Wire
