/-
# StartSignal.Proofs.Listener.Ceiling -- what a greater ceiling changes

The same events happen to two listeners, one of which bears more noise than the other.  They go
in step: each event leads both to the same state, or is refused by both in the same words, up to
the message that is one too many for the smaller ceiling (`next_cases`).  That message releases
the listener under it, which then takes nothing any more; whatever the other one does from there
on, the first has ended at its ceiling.  So a listener that does not end there does what it would
do under every greater ceiling (`walk_of_spared`).

A ceiling of nought bears as much noise as a ceiling of one.  The state machine by itself tells
them apart at the greatest count; but no run leads to it, and two ceilings with the same patience
are one to every listener whose count is below it (`walk_congr`).

Main result: `ceiling_matters_once`.
-/
import StartSignal.Proofs.Listener.Counting

namespace StartSignal.Listener.State

variable {ceiling ceiling' : UInt32} {s : State}

/-! ## One event -/

/-- A message of noise below both ceilings does the same under each. -/
theorem afterMessage_congr {noise : UInt32}
    (same : ceiling ≤ noise + 1 ↔ ceiling' ≤ noise + 1) (m : Message) :
    afterMessage noise m ceiling' = afterMessage noise m ceiling := by
  simp only [afterMessage, same]

/-- Only a message to a listener that reads meets the ceiling. -/
theorem next_congr {e : Event}
    (same : ∀ noise m, s = .reading noise → e = .message m →
      afterMessage noise m ceiling' = afterMessage noise m ceiling) :
    s.next e ceiling' = s.next e ceiling := by
  cases s with
  | reading noise =>
    cases e with
    | message m => exact congrArg Except.ok (same noise m rfl rfl)
    | _ => rfl
  | _ => cases e <;> rfl

/-- Under a greater ceiling an event does the same, unless it is the noise that is one too many
under the smaller. -/
theorem next_cases (le : ceiling ≤ ceiling') (s : State) (e : Event) :
    s.next e ceiling' = s.next e ceiling ∨
      s.next e ceiling = .ok (.released .ceilingReached) := by
  by_cases reached : s.next e ceiling = .ok (.released .ceilingReached)
  · exact .inr reached
  · left
    apply next_congr
    rintro noise m rfl rfl
    cases m with
    | start => rfl
    | other text =>
      have early : ¬ ceiling ≤ noise + 1 := by
        intro low
        exact reached (congrArg Except.ok (if_pos low))
      have early' : ¬ ceiling' ≤ noise + 1 := fun low => early (UInt32.le_trans le low)
      exact afterMessage_congr (iff_of_false early early') _

/-! ## Runs -/

theorem walk_cons (s : State) (e : Event) (ceiling : UInt32) (es : List Event) :
    s.walk ((e :: es).map (·, ceiling)) =
      s.next e ceiling :: (s.after e ceiling).walk (es.map (·, ceiling)) := rfl

theorem reached_cons (s : State) (e : Event) (ceiling : UInt32) (es : List Event) :
    reached ceiling s (e :: es) = reached ceiling (s.after e ceiling) es := rfl

theorem reached_terminal (finished : s.isTerminal = true) (es : List Event) :
    reached ceiling s es = s := by
  induction es with
  | nil => rfl
  | cons e es ih =>
    rw [reached_cons_error (next_terminal finished e ceiling)]
    exact ih

/-- A listener that does not end at its ceiling goes through the same under every greater one. -/
theorem walk_of_spared (le : ceiling ≤ ceiling') {es : List Event}
    (spared : reached ceiling s es ≠ .released .ceilingReached) :
    s.walk (es.map (·, ceiling')) = s.walk (es.map (·, ceiling)) ∧
      reached ceiling' s es = reached ceiling s es := by
  induction es generalizing s with
  | nil => exact ⟨rfl, rfl⟩
  | cons e es ih =>
    rcases next_cases le s e with same | last
    · have after : s.after e ceiling' = s.after e ceiling := by
        simp only [State.after, same]
      rw [reached_cons] at spared
      obtain ⟨walked, ended⟩ := ih spared
      constructor
      · rw [walk_cons, walk_cons, same, after, walked]
      · rw [reached_cons, reached_cons, after, ended]
    · -- From its release on, the listener stays where it is.
      rw [reached_cons_ok last, reached_terminal rfl] at spared
      exact absurd rfl spared

/-- Ceilings that bear the same noise are the same to a listener that has counted less. -/
theorem walk_congr {count : Nat} (same : patience ceiling' = patience ceiling)
    (tallied : s.Tallied ceiling count) (es : List Event) :
    s.walk (es.map (·, ceiling')) = s.walk (es.map (·, ceiling)) := by
  induction es generalizing s count with
  | nil => rfl
  | cons e es ih =>
    have next : s.next e ceiling' = s.next e ceiling := by
      apply next_congr
      rintro noise m rfl rfl
      apply afterMessage_congr
      have below := tallied.2
      rw [ceiling_le_iff below, ceiling_le_iff (same ▸ below), same]
    have after : s.after e ceiling' = s.after e ceiling := by
      simp only [State.after, next]
    rw [walk_cons, walk_cons, next, after]
    cases taken : s.next e ceiling with
    | ok t =>
      rw [State.after, taken]
      rw [ih (tallied.step (takes_of_next taken) (UInt32.le_refl _))]
    | error i =>
      rw [State.after, taken]
      rw [ih tallied]

/-! ## Main result -/

/-- **A ceiling matters to those who end at it, and to nobody else.**  Whatever happens to a
listener, if it does not end at its ceiling then it goes through the same states and the same
refusals under every greater one, and ends in the same state.  If it ends at the greater ceiling
it ends at the smaller one too.  A ceiling of nought is a ceiling of one. -/
theorem ceiling_matters_once (le : ceiling ≤ ceiling') (es : List Event) :
    (reached ceiling .idle es ≠ .released .ceilingReached →
      State.idle.walk (es.map (·, ceiling')) = State.idle.walk (es.map (·, ceiling)) ∧
        reached ceiling' .idle es = reached ceiling .idle es) ∧
    (reached ceiling' .idle es = .released .ceilingReached →
      reached ceiling .idle es = .released .ceilingReached) ∧
    State.idle.walk (es.map (·, 0)) = State.idle.walk (es.map (·, 1)) := by
  refine ⟨walk_of_spared le, ?_, ?_⟩
  · intro last
    by_cases ended : reached ceiling .idle es = .released .ceilingReached
    · exact ended
    · rw [← (walk_of_spared le ended).2]
      exact last
  · have same : patience 0 = patience 1 := rfl
    have begun : State.idle.Tallied 1 0 := rfl
    exact walk_congr same begun es

/-- A controller that gives its signal after one message of noise, and then goes away. -/
def belated : List Event := connected ["ping"] ++ [.message .start, .peerClosed]

def chatty : List Event := connected ["ping", "ping", "ping"]

/-- A ceiling of two lets the belated signal through as a ceiling of three does, and ends with the
chatty controller since a ceiling of three does. -/
theorem ceiling_matters_once_two :
    (2 : UInt32) ≤ 3 ∧ reached 2 .idle belated ≠ .released .ceilingReached ∧
      State.idle.walk (belated.map (·, 3)) = State.idle.walk (belated.map (·, 2)) ∧
      reached 3 .idle chatty = .released .ceilingReached ∧
      reached 2 .idle chatty = .released .ceilingReached := by
  have le : (2 : UInt32) ≤ 3 := by decide
  have spared : reached 2 .idle belated ≠ .released .ceilingReached := by decide
  have last : reached 3 .idle chatty = .released .ceilingReached := by decide
  obtain ⟨same, -, -⟩ := ceiling_matters_once le belated
  obtain ⟨-, sooner, -⟩ := ceiling_matters_once le chatty
  exact ⟨le, spared, (same spared).1, last, sooner last⟩

end StartSignal.Listener.State
