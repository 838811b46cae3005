/-
# StartSignal.Proofs.Dispatch.Turn -- one turn of one task

A task goes through its phases in one order (`Phase.next?`).  A turn moves one task on by
one phase, and everything else it changes follows from the two phases: the permits, the
attempts that have been begun (`Turn`), and the log (`log_advance?`).  Every task that holds a permit can take its
turn, and so can every task that waits while a permit is free (`advance?_isSome`).

What a turn does to a number that is added up over all tasks is what it does to the
summand of the one (`sum_map_set`).
-/
import Mathlib.Algebra.GroupWithZero.Nat
import StartSignal.Dispatch.Schedule

namespace StartSignal.Dispatch

/-! ## Sums over tasks -/

theorem sum_map_set {α : Type} (f : α → Nat) {l : List α} {i : Nat} {x : α}
    (here : l[i]? = some x) (y : α) :
    ((l.set i y).map f).sum + f x = (l.map f).sum + f y := by
  induction l generalizing i with
  | nil => simp at here
  | cons z l ih =>
    cases i with
    | zero =>
      obtain rfl : z = x := by simpa using here
      simp only [List.set_cons_zero, List.map_cons, List.sum_cons]
      omega
    | succ i =>
      have rest := ih (i := i) (by simpa using here)
      simp only [List.set_cons_succ, List.map_cons, List.sum_cons]
      omega

theorem countP_eq_sum {α : Type} (p : α → Bool) (l : List α) :
    l.countP p = (l.map fun x => (p x).toNat).sum := by
  induction l with
  | nil => rfl
  | cons x l ih =>
    rw [List.countP_cons, List.map_cons, List.sum_cons, ih]
    cases p x <;> simp [Nat.add_comm]

theorem sum_map_le {α : Type} {f : α → Nat} {most : Nat} (each : ∀ x, f x ≤ most) (l : List α) :
    (l.map f).sum ≤ most * l.length := by
  induction l with
  | nil => simp
  | cons x l ih =>
    have first := each x
    rw [List.map_cons, List.sum_cons, List.length_cons, Nat.mul_succ]
    omega

/-! ## Phases -/

namespace Phase

def next? (ending : Ending) : Phase → Option Phase
  | .waiting => some .admitted
  | .admitted => some .attempting
  | .attempting =>
    match ending with
    | .returned result => some (.attempted result)
    | .panicked _ => some (.leaving ending)
  | .attempted result => some (.leaving (.returned result))
  | .leaving ending => some (.ended ending)
  | .ended _ => none

def hasBegun : Phase → Bool
  | .waiting | .admitted => false
  | .attempting | .attempted _ | .leaving _ | .ended _ => true

/-- The most turns that the task still needs. -/
def turnsLeft : Phase → Nat
  | .waiting => 5
  | .admitted => 4
  | .attempting => 3
  | .attempted _ => 2
  | .leaving _ => 1
  | .ended _ => 0

def records (address : WorkerAddress) : Phase → List Log.Record
  | .attempted result => [attemptRecord address result]
  | _ => []

/-- What the phase tells of an attempt is true of an attempt that ends so. -/
def Agrees (ending : Ending) : Phase → Prop
  | .waiting | .admitted | .attempting => True
  | .attempted result => ending = .returned result
  | .leaving told | .ended told => ending = told

theorem Agrees.next {ending : Ending} {p q : Phase} (agrees : p.Agrees ending)
    (next : p.next? ending = some q) : q.Agrees ending := by
  cases p with
  | waiting => cases next; trivial
  | admitted => cases next; trivial
  | attempting => cases ending <;> cases next <;> rfl
  | attempted result => cases next; exact agrees
  | leaving told => cases next; exact agrees
  | ended told => cases next

theorem turnsLeft_le (p : Phase) : p.turnsLeft ≤ 5 := by
  cases p <;> simp [turnsLeft]

theorem turnsLeft_next {ending : Ending} {p q : Phase} (next : p.next? ending = some q) :
    q.turnsLeft < p.turnsLeft := by
  cases p with
  | attempting => cases ending <;> cases next <;> simp [turnsLeft]
  | ended told => cases next
  | _ => cases next; simp [turnsLeft]

/-- An attempt that has been begun stays so. -/
theorem hasBegun_next {ending : Ending} {p q : Phase} (next : p.next? ending = some q)
    (begun : p.hasBegun = true) : q.hasBegun = true := by
  cases p with
  | attempting => cases ending <;> cases next <;> rfl
  | waiting => cases begun
  | admitted => cases begun
  | ended told => cases next
  | _ => cases next; rfl

theorem holdsPermit_of_isAttempting (p : Phase) (attempting : p.isAttempting = true) :
    p.holdsPermit = true := by
  cases p <;> first | rfl | cases attempting

end Phase

/-! ## Turns -/

namespace Schedule

variable {ending : Ending} {s t : Schedule} {i : Nat} {address : WorkerAddress} {p q : Phase}

/-- The task at a position has gone from one phase to the next. -/
structure Turn (ending : Ending) (i : Nat) (p q : Phase) (s t : Schedule) : Prop where
  next : p.next? ending = some q
  phases : t.phases = s.phases.set i q
  permits : t.permits + q.holdsPermit.toNat = s.permits + p.holdsPermit.toNat
  begun : t.begun = if p.hasBegun = q.hasBegun then s.begun else i :: s.begun
  addresses : t.addresses = s.addresses
  outcomes : t.outcomes = s.outcomes
  report : t.report = s.report

theorem turn_of_advance? (taken : s.advance? ending i address p = some t) :
    ∃ q, Turn ending i p q s t := by
  cases p with
  | waiting =>
    simp only [advance?] at taken
    split at taken
    · rename_i free
      cases taken
      refine ⟨.admitted, rfl, rfl, ?_, rfl, rfl, rfl, rfl⟩
      show s.permits - 1 + 1 = s.permits + 0
      omega
    · cases taken
  | admitted =>
    cases taken
    exact ⟨.attempting, rfl, rfl, rfl, rfl, rfl, rfl, rfl⟩
  | attempting =>
    cases ending with
    | returned result =>
      cases taken
      exact ⟨.attempted result, rfl, rfl, rfl, rfl, rfl, rfl, rfl⟩
    | panicked reason =>
      cases taken
      exact ⟨.leaving (.panicked reason), rfl, rfl, rfl, rfl, rfl, rfl, rfl⟩
  | attempted result =>
    cases taken
    exact ⟨.leaving (.returned result), rfl, rfl, rfl, rfl, rfl, rfl, rfl⟩
  | leaving told =>
    cases taken
    exact ⟨.ended told, rfl, rfl, rfl, rfl, rfl, rfl, rfl⟩
  | ended told => cases taken

theorem log_advance? (taken : s.advance? ending i address p = some t) :
    t.log = s.log ++ p.records address := by
  cases p with
  | waiting =>
    simp only [advance?] at taken
    split at taken <;> cases taken
    exact (List.append_nil _).symm
  | attempting => cases ending <;> cases taken <;> exact (List.append_nil _).symm
  | attempted result =>
    cases taken
    rfl
  | ended told => cases taken
  | admitted | leaving told =>
    cases taken
    exact (List.append_nil _).symm

theorem advance?_isSome (going : p.isEnded = false)
    (permitted : p.holdsPermit = true ∨ 0 < s.permits) :
    (s.advance? ending i address p).isSome = true := by
  cases p with
  | waiting =>
    rcases permitted with holds | free
    · cases holds
    · simp [advance?, free]
  | attempting => cases ending <;> rfl
  | ended told => cases going
  | _ => rfl

end Schedule

end StartSignal.Dispatch
