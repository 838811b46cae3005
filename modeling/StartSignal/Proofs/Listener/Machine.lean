/-
# StartSignal.Proofs.Listener.Machine -- runs in which every event is taken

`State.run?` takes events one after the other and stops at the first that its state does
not take; `State.passages` writes down each step of such a run as the texts of the states
before and after it.  A run of several events is a chain (`run?_chained`): each step
starts where the one before it ended.

`patience` is the number of messages of noise that end a connection.  It is at least one,
so a ceiling of nought is a ceiling of one.  A count of noise below it has not wrapped
(`toNat_succ`), and reaches the ceiling exactly when it reaches the patience
(`ceiling_le_iff`).
-/
import Mathlib.Data.List.Chain
import StartSignal.Listener.State

namespace StartSignal.Listener

/-- The number of messages of noise that end a connection under a ceiling. -/
def patience (ceiling : UInt32) : Nat := max ceiling.toNat 1

theorem patience_pos (ceiling : UInt32) : 0 < patience ceiling :=
  Nat.lt_of_lt_of_le Nat.zero_lt_one (Nat.le_max_right _ _)

theorem patience_lt (ceiling : UInt32) : patience ceiling < UInt32.size := by
  have bound := ceiling.toNat_lt_size
  have one : 1 < UInt32.size := by decide
  exact Nat.max_lt.mpr ⟨bound, one⟩

theorem toNat_succ {k ceiling : UInt32} (below : k.toNat < patience ceiling) :
    (k + 1).toNat = k.toNat + 1 := by
  have bound := patience_lt ceiling
  have size : UInt32.size = 2 ^ 32 := rfl
  rw [UInt32.toNat_add, UInt32.toNat_one]
  omega

theorem ceiling_le_iff {k ceiling : UInt32} (below : k.toNat < patience ceiling) :
    ceiling ≤ k + 1 ↔ patience ceiling ≤ k.toNat + 1 := by
  rw [UInt32.le_iff_toNat_le, toNat_succ below]
  unfold patience
  omega

/-- The text of a listener that reads and has counted some noise. -/
def readingText (noise : Nat) : String :=
  "connected_reading" ++ "(" ++ Text.natText noise ++ ")"

namespace State

@[simp] theorem render_reading (noise : UInt32) :
    (State.reading noise).render = readingText noise.toNat := rfl

@[simp] theorem isTerminal_reading (noise : UInt32) : (State.reading noise).isTerminal = false :=
  rfl

theorem isTerminal_of_outcome {s : State} {o : Outcome} (h : s.outcome? = some o) :
    s.isTerminal = true := by
  simp [isTerminal, h]

/-! ## One message -/

theorem afterMessage_start (noise : UInt32) (ceiling : UInt32) :
    afterMessage noise .start ceiling = .released .startReceived := rfl

/-- A message of noise that leaves some patience is counted. -/
theorem afterMessage_below {noise ceiling : UInt32} {m : Message} (isNoise : m.isStart = false)
    (below : noise.toNat + 1 < patience ceiling) :
    afterMessage noise m ceiling = .reading (noise + 1) := by
  have early : noise.toNat < patience ceiling := by omega
  have short : ¬ ceiling ≤ noise + 1 := by
    rw [ceiling_le_iff early]
    omega
  simp [afterMessage, isNoise, short]

/-- The message of noise that uses up the patience releases the listener. -/
theorem afterMessage_last {noise ceiling : UInt32} {m : Message} (isNoise : m.isStart = false)
    (last : noise.toNat + 1 = patience ceiling) :
    afterMessage noise m ceiling = .released .ceilingReached := by
  have early : noise.toNat < patience ceiling := by omega
  have reached : ceiling ≤ noise + 1 := by
    rw [ceiling_le_iff early]
    omega
  simp [afterMessage, isNoise, reached]

/-! ## Runs -/

/-- The state after events that are all taken; else the first that is not. -/
def run? (ceiling : UInt32) (s : State) (es : List Event) : Except InvalidTransition State :=
  es.foldlM (fun s e => s.next e ceiling) s

/-- The texts of the states before and after each event of a run. -/
def passages (ceiling : UInt32) : State → List Event → List (String × String)
  | _, [] => []
  | s, e :: es =>
    match s.next e ceiling with
    | .ok t => (s.render, t.render) :: passages ceiling t es
    | .error _ => []

theorem run?_cons (ceiling : UInt32) (s : State) (e : Event) (es : List Event) :
    run? ceiling s (e :: es) = (s.next e ceiling).bind fun t => run? ceiling t es := by
  simp only [run?, List.foldlM_cons]
  rfl

theorem exists_of_run?_cons {ceiling : UInt32} {s t : State} {e : Event} {es : List Event}
    (ran : run? ceiling s (e :: es) = .ok t) :
    ∃ u, s.next e ceiling = .ok u ∧ run? ceiling u es = .ok t := by
  rw [run?_cons] at ran
  cases first : s.next e ceiling with
  | error _ =>
    rw [first] at ran
    cases ran
  | ok u =>
    rw [first] at ran
    exact ⟨u, rfl, ran⟩

theorem run?_append {ceiling : UInt32} {s t : State} {es : List Event}
    (ran : run? ceiling s es = .ok t) (fs : List Event) :
    run? ceiling s (es ++ fs) = run? ceiling t fs := by
  unfold run? at ran ⊢
  rw [List.foldlM_append, ran]
  rfl

theorem run?_concat {ceiling : UInt32} {s t u : State} {es : List Event} {e : Event}
    (ran : run? ceiling s es = .ok t) (taken : t.next e ceiling = .ok u) :
    run? ceiling s (es ++ [e]) = .ok u := by
  rw [run?_append ran, run?_cons, taken]
  rfl

theorem passages_concat {ceiling : UInt32} {s t u : State} {es : List Event} {e : Event}
    (ran : run? ceiling s es = .ok t) (taken : t.next e ceiling = .ok u) :
    passages ceiling s (es ++ [e]) = passages ceiling s es ++ [(t.render, u.render)] := by
  induction es generalizing s with
  | nil =>
    cases ran
    simp [passages, taken]
  | cons f fs ih =>
    obtain ⟨v, first, rest⟩ := exists_of_run?_cons ran
    simp only [List.cons_append, passages, first]
    rw [ih rest]

theorem length_passages {ceiling : UInt32} {s t : State} {es : List Event}
    (ran : run? ceiling s es = .ok t) : (passages ceiling s es).length = es.length := by
  induction es generalizing s with
  | nil => rfl
  | cons e es ih =>
    obtain ⟨v, first, rest⟩ := exists_of_run?_cons ran
    simp only [passages, first, List.length_cons, ih rest]

/-- Steps that lead from one text to another, each from where the one before it ended. -/
def Chained (source target : String) : List (String × String) → Prop
  | [] => source = target
  | p :: ps => p.1 = source ∧ Chained p.2 target ps

theorem run?_chained {ceiling : UInt32} {s t : State} {es : List Event}
    (ran : run? ceiling s es = .ok t) : Chained s.render t.render (passages ceiling s es) := by
  induction es generalizing s with
  | nil => cases ran; rfl
  | cons e es ih =>
    obtain ⟨v, first, rest⟩ := exists_of_run?_cons ran
    simp only [passages, first]
    exact ⟨rfl, ih rest⟩

theorem Chained.isChain {source target : String} {ps : List (String × String)}
    (chained : Chained source target ps) : ps.IsChain fun p q => p.2 = q.1 := by
  induction ps generalizing source with
  | nil => exact .nil
  | cons p ps ih =>
    cases ps with
    | nil => exact .singleton _
    | cons q qs => exact .cons_cons chained.2.1.symm (ih chained.2)

theorem Chained.head {source target : String} {ps : List (String × String)}
    (chained : Chained source target ps) (nonempty : ps ≠ []) :
    ps.head?.map Prod.fst = some source := by
  cases ps with
  | nil => exact absurd rfl nonempty
  | cons p ps => simp [chained.1]

theorem Chained.last {source target : String} {ps : List (String × String)}
    (chained : Chained source target ps) (nonempty : ps ≠ []) :
    ps.getLast?.map Prod.snd = some target := by
  induction ps generalizing source with
  | nil => exact absurd rfl nonempty
  | cons p ps ih =>
    cases ps with
    | nil => exact congrArg some chained.2
    | cons q qs =>
      rw [List.getLast?_cons_cons]
      exact ih chained.2 (by simp)

end State

end StartSignal.Listener
