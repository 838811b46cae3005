/-
# StartSignal.Proofs.Listener.Counting -- no count of messages wraps

A listener counts messages in 32 bits, in its state and once more for the ordinals of its log.
At the greatest count one more would wrap, and the state machine does not look out for that:
handed such a count, it starts from nought.  No run hands it one.  A message that leaves the
listener reading has brought the count to less than the ceiling it met, and a ceiling is a
32-bit number itself, so that there is always room for one more.

The invariant is `State.Tallied`: the count is the number of messages taken so far, and it is
below the patience of every ceiling there has been.  One step keeps it (`Tallied.step`), under
whatever ceiling the step is taken, and so does a run (`tallied_roamed`).

Main result: `counts_never_wrap`.  The bound on the count is met (`exists_reading`).
-/
import StartSignal.Proofs.Listener.Language
import StartSignal.Proofs.Listener.Refinement

namespace StartSignal.Listener

def Event.isMessage : Event → Bool
  | .message _ => true
  | _ => false

/-- Less than the patience is nothing, or less than the ceiling. -/
theorem lt_patience_iff {k ceiling : UInt32} : k.toNat < patience ceiling ↔ k = 0 ∨ k < ceiling := by
  rw [UInt32.lt_iff_toNat_lt, ← UInt32.toNat_inj, UInt32.toNat_zero]
  unfold patience
  omega

namespace State

/-! ## Runs under ceilings that change -/

/-- The state after events, each under a ceiling of its own, that are taken or passed over. -/
def roamed (s : State) (es : List (Event × UInt32)) : State :=
  es.foldl (fun s e => s.after e.1 e.2) s

/-- The number of messages among the events that are taken. -/
def messages (s : State) (es : List (Event × UInt32)) : Nat :=
  (es.zip (s.walk es)).countP fun p => p.1.1.isMessage && p.2.isOk

theorem roamed_cons (s : State) (e : Event) (ceiling : UInt32) (es : List (Event × UInt32)) :
    s.roamed ((e, ceiling) :: es) = (s.after e ceiling).roamed es := rfl

theorem messages_cons_ok {s t : State} {e : Event} {ceiling : UInt32}
    (taken : s.next e ceiling = .ok t) (es : List (Event × UInt32)) :
    s.messages ((e, ceiling) :: es) = t.messages es + e.isMessage.toNat := by
  have after : s.after e ceiling = t := by rw [State.after, taken]
  rw [messages, walk, List.zip_cons_cons, List.countP_cons, after, taken, messages]
  cases e.isMessage <;> rfl

theorem messages_cons_error {s : State} {e : Event} {ceiling : UInt32} {i : InvalidTransition}
    (refused : s.next e ceiling = .error i) (es : List (Event × UInt32)) :
    s.messages ((e, ceiling) :: es) = s.messages es := by
  have after : s.after e ceiling = s := by rw [State.after, refused]
  rw [messages, walk, List.zip_cons_cons, List.countP_cons, after, refused, messages]
  cases e.isMessage <;> rfl

/-- A run under one ceiling. -/
theorem roamed_map (ceiling : UInt32) (s : State) (es : List Event) :
    s.roamed (es.map (·, ceiling)) = reached ceiling s es := by
  rw [roamed, List.foldl_map, reached]

/-! ## The invariant -/

/-- The state fits the number of messages taken so far, under ceilings of at most `most`. -/
def Tallied (most : UInt32) (count : Nat) : State → Prop
  | .idle | .bound | .awaitingConnection => count = 0
  | .reading noise => noise.toNat = count ∧ noise.toNat < patience most
  | .released _ | .timedOut | .terminated => True

/-- A message that leaves the listener reading is counted, and there is room for another. -/
theorem tallied_afterMessage {ceiling most noise : UInt32} {count : Nat} (low : ceiling ≤ most)
    (counted : noise.toNat = count) (below : noise.toNat < patience most) (m : Message) :
    (afterMessage noise m ceiling).Tallied most (count + 1) := by
  unfold afterMessage
  split
  · trivial
  · split
    · trivial
    · rename_i early
      have next : (noise + 1).toNat = noise.toNat + 1 := toNat_succ below
      refine ⟨by rw [next, counted], lt_patience_iff.mpr (.inr ?_)⟩
      exact UInt32.lt_of_lt_of_le (UInt32.not_le.mp early) low

theorem Tallied.step {ceiling most : UInt32} {count : Nat} {s t : State} {e : Event}
    (tallied : s.Tallied most count) (takes : Takes ceiling s e t) (low : ceiling ≤ most) :
    t.Tallied most (count + e.isMessage.toNat) := by
  cases takes with
  | bound | listening => exact tallied
  | accepted => exact ⟨tallied.symm, patience_pos most⟩
  | message noise m => exact tallied_afterMessage low tallied.1 tallied.2 m
  | acceptTimedOut | peerClosed _ | readFailed _ | terminated _ => trivial

/-- So does every run, whatever ceilings of at most `most` its events meet. -/
theorem tallied_roamed {most : UInt32} {count : Nat} {s : State} {es : List (Event × UInt32)}
    (tallied : s.Tallied most count) (low : ∀ e ∈ es, e.2 ≤ most) :
    (s.roamed es).Tallied most (count + s.messages es) := by
  induction es generalizing s count with
  | nil => exact tallied
  | cons first es ih =>
    obtain ⟨e, ceiling⟩ := first
    obtain ⟨here, later⟩ := List.forall_mem_cons.mp low
    rw [roamed_cons]
    cases next : s.next e ceiling with
    | ok t =>
      have after : s.after e ceiling = t := by rw [State.after, next]
      have kept := ih (tallied.step (takes_of_next next) here) later
      rw [after, messages_cons_ok next]
      rwa [Nat.add_assoc, Nat.add_comm e.isMessage.toNat] at kept
    | error i =>
      have after : s.after e ceiling = s := by rw [State.after, next]
      rw [after, messages_cons_error next]
      exact ih tallied later

theorem tallied_idle (es : List (Event × UInt32)) {most : UInt32} (low : ∀ e ∈ es, e.2 ≤ most) :
    (State.idle.roamed es).Tallied most (State.idle.messages es) := by
  have begun : State.idle.Tallied most 0 := rfl
  have tallied := tallied_roamed begun low
  rwa [Nat.zero_add] at tallied

/-- Every count that leaves room for one more is reached. -/
theorem exists_reading {noise : UInt32} (room : noise.toNat + 2 ≤ UInt32.size) :
    ∃ es, State.idle.roamed es = .reading noise := by
  have most : patience 4294967295 = UInt32.size - 1 := rfl
  have few : (List.replicate noise.toNat "").length < patience 4294967295 := by
    rw [List.length_replicate, most]
    omega
  obtain ⟨count, ran, counted⟩ := run?_connected few
  rw [List.length_replicate, UInt32.toNat_inj] at counted
  refine ⟨(connected (List.replicate noise.toNat "")).map (·, 4294967295), ?_⟩
  rw [roamed_map]
  have whole := run?_taken 4294967295 .idle (connected (List.replicate noise.toNat ""))
  rw [taken_of_run? ran (List.prefix_refl _), ran, Except.ok.injEq, counted] at whole
  exact whole.symm

end State

/-! ## Ordinals -/

namespace Session

/-- The ordinals of a session, so far. -/
structure Ordinal (s : Session) : Prop where
  /-- They are 1, 2, and so on up to the last one given. -/
  numbered : (heard s.log).map Prod.snd = List.range' 1 s.ordinal.toNat
  /-- While the session goes on, the next one is greater by one. -/
  next : s.ending = none → ∀ text, (s.receive text).ordinal.toNat = s.ordinal.toNat + 1

theorem Settled.ordinal {s : Session} (settled : Settled s) : Ordinal s where
  numbered := settled.faithful.numbered
  next := by
    intro going text
    obtain ⟨noise, reading⟩ := settled.reading going
    obtain ⟨same, below⟩ := settled.faithful.counted noise reading
    have received : (s.receive text).ordinal = s.ordinal + 1 :=
      congrArg Session.ordinal (observe_eq reading (.received (.text text)))
    rw [received, same]
    exact toNat_succ below

theorem ordinal_run (config : Config) (address : SocketAddress) (wait : Wait)
    (reads : List Read) : Ordinal ((fresh config address).run wait reads) := by
  by_cases failed : ∃ e, wait = .failed e
  · obtain ⟨e, rfl⟩ := failed
    rw [run, follow_ended rfl]
    refine ⟨rfl, fun going => ?_⟩
    cases going
  · exact (settled_run config address (fun e same => failed ⟨e, same⟩) reads).ordinal

end Session

/-! ## Main result -/

/-- **No count wraps.**  Whatever happens to a listener, and whatever ceiling each event meets:
while it reads, its count is the number of messages that it has taken, and leaves room for one
more.  Under ceilings none of which is above `most` the count is nothing or below `most`.  The
ordinals of a session are 1, 2, and so on, whatever its controller says and however often. -/
theorem counts_never_wrap :
    (∀ (es : List (Event × UInt32)) (noise : UInt32), State.idle.roamed es = .reading noise →
      noise.toNat = State.idle.messages es ∧ noise.toNat + 2 ≤ UInt32.size ∧
        (noise + 1).toNat = noise.toNat + 1 ∧
        ∀ most, (∀ e ∈ es, e.2 ≤ most) → noise = 0 ∨ noise < most) ∧
    (∀ (ceiling : UInt32) (es : List Event) (noise : UInt32),
      State.reached ceiling .idle es = .reading noise → noise = 0 ∨ noise < ceiling) ∧
    (∀ config address, ∃ s, Session.bind config (.listening address) = .ok s ∧
      ∀ wait reads, (s.run wait reads).Ordinal) := by
  have below : ∀ (es : List (Event × UInt32)) (noise : UInt32),
      State.idle.roamed es = .reading noise → ∀ most, (∀ e ∈ es, e.2 ≤ most) →
      noise.toNat = State.idle.messages es ∧ noise.toNat < patience most := by
    intro es noise reading most low
    have tallied := State.tallied_idle es low
    rwa [reading] at tallied
  refine ⟨?_, ?_, ?_⟩
  case refine_1 =>
    intro es noise reading
    have highest : ∀ e ∈ es, e.2 ≤ (4294967295 : UInt32) := by
      intro e _
      exact UInt32.le_iff_toNat_le.mpr (Nat.le_of_lt_succ e.2.toNat_lt_size)
    obtain ⟨counted, room⟩ := below es noise reading _ highest
    have greatest : patience 4294967295 = UInt32.size - 1 := rfl
    refine ⟨counted, by omega, toNat_succ room, fun most low => ?_⟩
    exact lt_patience_iff.mp (below es noise reading most low).2
  case refine_2 =>
    intro ceiling es noise reading
    rw [← State.roamed_map] at reading
    refine lt_patience_iff.mp (below _ noise reading ceiling ?_).2
    simp
  case refine_3 =>
    intro config address
    exact ⟨_, Session.bind_fresh config address, Session.ordinal_run config address⟩

/-- The state machine by itself does wrap, at the one count that no run leads to. -/
example : State.afterMessage 4294967295 (.other "stop") 5 = .reading 0 := by decide

end StartSignal.Listener
