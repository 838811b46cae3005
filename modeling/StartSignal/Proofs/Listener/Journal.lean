/-
# StartSignal.Proofs.Listener.Journal -- what the log of a session tells

Two kinds of records tell the story of a session: each message received, with its
ordinal (`heard`), and each step of the state machine, with the texts of the states
before and after it (`transitions`).  All other records are asides.

`Answered` says that every message is followed at once by the step it causes.  A log
keeps that when it grows by an aside (`Answered.aside`) or by a record together with the
step it causes (`Answered.pair`).
-/
import StartSignal.Listener.State
import StartSignal.Log.Record

namespace StartSignal.Listener

open Log

/-- The message that a record tells of, and its ordinal. -/
def heardIn? (r : Record) : Option (String × Nat) :=
  if r.text = "received message" then
    match r.field? "message", r.field? "ordinal" with
    | some (.shown text), some (.number ordinal) => some (text, ordinal)
    | _, _ => none
  else none

/-- The states before and after the step that a record tells of. -/
def transitionIn? (r : Record) : Option (String × String) :=
  if r.text = "listener transition" then
    match r.field? "from", r.field? "to" with
    | some (.shown source), some (.shown target) => some (source, target)
    | _, _ => none
  else none

/-- The messages a log tells of, with their ordinals. -/
def heard (log : List Record) : List (String × Nat) := log.filterMap heardIn?

/-- The steps of the state machine a log tells of. -/
def transitions (log : List Record) : List (String × String) := log.filterMap transitionIn?

def messageRecord (text : String) (ordinal : UInt32) : Record :=
  Source.session.record .info "received message"
    [("ordinal", .number ordinal.toNat), ("message", .shown text)]

def transitionRecord (s t : State) : Record :=
  Source.session.record .debug "listener transition"
    [("from", .shown s.render), ("to", .shown t.render)]

@[simp] theorem heard_append (a b : List Record) : heard (a ++ b) = heard a ++ heard b := by
  simp [heard]

@[simp] theorem transitions_append (a b : List Record) :
    transitions (a ++ b) = transitions a ++ transitions b := by
  simp [transitions]

@[simp] theorem heardIn?_messageRecord (text : String) (ordinal : UInt32) :
    heardIn? (messageRecord text ordinal) = some (text, ordinal.toNat) := by
  simp [heardIn?, messageRecord, Source.record, Record.field?]

@[simp] theorem transitionIn?_messageRecord (text : String) (ordinal : UInt32) :
    transitionIn? (messageRecord text ordinal) = none := by
  simp [transitionIn?, messageRecord, Source.record]

@[simp] theorem heardIn?_transitionRecord (s t : State) :
    heardIn? (transitionRecord s t) = none := by
  simp [heardIn?, transitionRecord, Source.record]

@[simp] theorem transitionIn?_transitionRecord (s t : State) :
    transitionIn? (transitionRecord s t) = some (s.render, t.render) := by
  simp [transitionIn?, transitionRecord, Source.record, Record.field?]

/-- A record that tells of no message and of no step. -/
structure Aside (r : Record) : Prop where
  unheard : heardIn? r = none
  still : transitionIn? r = none

theorem Aside.heard_singleton {r : Record} (aside : Aside r) : heard [r] = [] :=
  List.filterMap_cons_none aside.unheard

theorem Aside.transitions_singleton {r : Record} (aside : Aside r) : transitions [r] = [] :=
  List.filterMap_cons_none aside.still

/-- Records of the session are told apart by their texts. -/
theorem aside_of_text {level : Level} {text : String} {fields : List (String × FieldValue)}
    (notMessage : text ≠ "received message") (notStep : text ≠ "listener transition") :
    Aside (Source.session.record level text fields) := by
  constructor
  · simp [heardIn?, Source.record, notMessage]
  · simp [transitionIn?, Source.record, notStep]

/-- Each message in a log is followed at once by a step, which leads where `leads` says for
its ordinal. -/
def Answered (leads : Nat → String → Prop) (log : List Record) : Prop :=
  ∀ i text ordinal, log[i]?.bind heardIn? = some (text, ordinal) →
    ∃ source target, log[i + 1]?.bind transitionIn? = some (source, target) ∧
      leads ordinal target

namespace Answered

variable {leads leads' : Nat → String → Prop} {log : List Record}

theorem mono (answered : Answered leads log)
    (weaker : ∀ ordinal target, leads ordinal target → leads' ordinal target) :
    Answered leads' log := by
  intro i text ordinal told
  obtain ⟨source, target, step, leadsTo⟩ := answered i text ordinal told
  exact ⟨source, target, step, weaker ordinal target leadsTo⟩

theorem nil : Answered leads [] := by
  intro i text ordinal told
  simp at told

/-- What follows a record inside a log still follows it when the log grows. -/
theorem kept {more : List Record} (answered : Answered leads log) {i ordinal : Nat}
    {text : String} (told : log[i]?.bind heardIn? = some (text, ordinal)) :
    ∃ source target, (log ++ more)[i + 1]?.bind transitionIn? = some (source, target) ∧
      leads ordinal target := by
  obtain ⟨source, target, step, leadsTo⟩ := answered i text ordinal told
  refine ⟨source, target, ?_, leadsTo⟩
  have inside : i + 1 < log.length := by
    rcases Nat.lt_or_ge (i + 1) log.length with inside | outside
    · exact inside
    · rw [List.getElem?_eq_none outside] at step
      cases step
  rw [List.getElem?_append_left inside]
  exact step

theorem aside (answered : Answered leads log) {r : Record} (unheard : heardIn? r = none) :
    Answered leads (log ++ [r]) := by
  intro i text ordinal told
  rcases Nat.lt_or_ge i log.length with inside | outside
  · rw [List.getElem?_append_left inside] at told
    exact answered.kept told
  · rw [List.getElem?_append_right outside] at told
    cases position : i - log.length with
    | zero => rw [position] at told; simp [unheard] at told
    | succ n => rw [position] at told; simp at told

theorem pair (answered : Answered leads log) {cause : Record} {s t : State}
    (leadsOn : ∀ text ordinal, heardIn? cause = some (text, ordinal) → leads ordinal t.render) :
    Answered leads (log ++ [cause, transitionRecord s t]) := by
  intro i text ordinal told
  rcases Nat.lt_or_ge i log.length with inside | outside
  · rw [List.getElem?_append_left inside] at told
    exact answered.kept told
  · rw [List.getElem?_append_right outside] at told
    cases position : i - log.length with
    | zero =>
      rw [position] at told
      refine ⟨s.render, t.render, ?_, leadsOn text ordinal (by simpa using told)⟩
      have next : i + 1 - log.length = 1 := by omega
      rw [List.getElem?_append_right (by omega), next]
      simp
    | succ n =>
      rw [position] at told
      cases n with
      | zero => simp at told
      | succ n => simp at told

end Answered

end StartSignal.Listener
