/-
# StartSignal.Proofs.Listener.Queue -- a controller that has said everything beforehand

What a controller sends before the session runs queues up, whatever pieces it sends it in
(`steps_sends`).  The session then meets the slices of the queue one after the other and
the end of the file behind them (`queued`), so how it ends is a matter of arithmetic on the
number of bytes: only the last slice can be the start signal, and it must come before the
slices of noise have used up the patience.

Main result: `queue_decides`.
-/
import StartSignal.Proofs.Listener.Cancellation
import StartSignal.Proofs.Listener.Verdict
import StartSignal.Proofs.Wire.Slices

namespace StartSignal.Listener

open Log Wire

/-- What a session meets on a connection with bytes in its queue that its controller has
closed: the slices of the bytes and the end of the file. -/
def queued (bytes : List UInt8) (i : Nat) : Occurrence :=
  if inside : i < sliceCount bytes then
    .chunk ⟨slice bytes i, slice_ne_nil inside, length_slice_le bytes i⟩
  else .endOfFile

/-- The bytes end in a slice that is the start signal. -/
def EndsInStart (bytes : List UInt8) : Prop :=
  bytes.length % maxMessageBytes = 5 ∧ tokenBytes <:+ bytes

instance (bytes : List UInt8) : Decidable (EndsInStart bytes) :=
  inferInstanceAs (Decidable (_ ∧ _))

/-- How a session ends whose controller has said everything. -/
def queueOutcome (ceiling : UInt32) (bytes : List UInt8) : Outcome :=
  if EndsInStart bytes ∧ bytes.length / maxMessageBytes < patience ceiling then
    .released .startReceived
  else if patience ceiling ≤ sliceCount bytes then .released .ceilingReached
  else .released .peerClosed

/-! ## Occurrences -/

section Occurrences

variable {bytes : List UInt8} {i n : Nat}

theorem queued_inside (inside : i < sliceCount bytes) :
    queued bytes i = .chunk ⟨slice bytes i, slice_ne_nil inside, length_slice_le bytes i⟩ :=
  dif_pos inside

theorem queued_outside (outside : sliceCount bytes ≤ i) : queued bytes i = .endOfFile :=
  dif_neg (Nat.not_lt.mpr outside)

/-- A slice is noise unless it is the last and the bytes end in the start signal. -/
theorem isNoise_queued (inside : i < sliceCount bytes)
    (other : ¬ (EndsInStart bytes ∧ i = bytes.length / maxMessageBytes)) :
    (queued bytes i).isNoise = true := by
  rw [queued_inside inside]
  refine decide_eq_true ?_
  show slice bytes i ≠ tokenBytes
  rw [ne_eq, slice_eq_token_iff]
  rintro ⟨last, rest, ending⟩
  exact other ⟨⟨rest, ending⟩, last⟩

/-- The first reads, cut in two. -/
theorem firstReads_add (env : Nat → Occurrence) (n m : Nat) :
    firstReads env (n + m) =
      firstReads env n ++ (List.range m).map fun i => (env (n + i)).read := by
  simp [firstReads, List.range_add]

/-- The reads of a session whose controller has said everything. -/
theorem firstReads_queued (bytes : List UInt8) :
    firstReads (queued bytes) (sliceCount bytes + 1) =
      (slices bytes).map (fun b => .received (.ofBytes b)) ++ [.received .closed] := by
  rw [firstReads_succ, queued_outside (Nat.le_refl _), slices_eq, List.map_map]
  refine congrArg (· ++ [Read.received Reception.closed]) (List.map_congr_left fun i member => ?_)
  have inside := List.mem_range.mp member
  rw [queued_inside inside, Occurrence.read_chunk]
  simp [Reception.ofBytes, slice_ne_nil inside]

/-- The texts among the first reads are those of the first slices. -/
theorem texts_queued (few : n ≤ sliceCount bytes) :
    (firstReads (queued bytes) n).filterMap Read.text? =
      (List.range n).map fun i => Text.Utf8.text (slice bytes i) := by
  induction n with
  | zero => rfl
  | succ n ih =>
    have inside : n < sliceCount bytes := few
    rw [firstReads_succ, List.filterMap_append, ih (Nat.le_of_lt inside), List.range_succ,
      List.map_append, queued_inside inside, Occurrence.read_chunk]
    rfl

theorem texts_queued_last :
    (firstReads (queued bytes) (sliceCount bytes + 1)).filterMap Read.text? =
      (List.range (sliceCount bytes)).map fun i => Text.Utf8.text (slice bytes i) := by
  rw [firstReads_succ, List.filterMap_append, texts_queued (Nat.le_refl _),
    queued_outside (Nat.le_refl _)]
  exact List.append_nil _

end Occurrences

/-! ## What decides -/

/-- An occurrence decides how a session ends, after others that decide nothing. -/
structure FirstDecides (ceiling : UInt32) (bytes : List UInt8) (n : Nat) (o : Outcome) : Prop where
  here : Decides ceiling (queued bytes) n o
  before : ∀ i < n, ∀ o', ¬ Decides ceiling (queued bytes) i o'
  /-- The messages up to it are the first slices, as many as there is patience for. -/
  texts : (firstReads (queued bytes) (n + 1)).filterMap Read.text? =
    (List.range (min (sliceCount bytes) (patience ceiling))).map fun i =>
      Text.Utf8.text (slice bytes i)

section Decides

variable {ceiling : UInt32} {bytes : List UInt8}

/-- The start signal that comes while there is patience. -/
theorem firstDecides_start (ends : EndsInStart bytes)
    (soon : bytes.length / maxMessageBytes < patience ceiling) :
    FirstDecides ceiling bytes (bytes.length / maxMessageBytes) (.released .startReceived) := by
  have count : sliceCount bytes = bytes.length / maxMessageBytes + 1 := by
    have rest := ends.1
    simp only [sliceCount, maxMessageBytes] at rest ⊢
    omega
  have inside : bytes.length / maxMessageBytes < sliceCount bytes := by omega
  have noise : ∀ i < bytes.length / maxMessageBytes, (queued bytes i).isNoise = true :=
    fun i early => isNoise_queued (by omega) fun last => by omega
  have last : slice bytes (bytes.length / maxMessageBytes) = tokenBytes :=
    slice_eq_token_iff.mpr ⟨rfl, ends⟩
  refine ⟨.start (queued_inside inside) last, not_decides_of_noise noise soon, ?_⟩
  rw [texts_queued inside, count, Nat.min_eq_left soon]

/-- Slices of noise that use up the patience. -/
theorem firstDecides_ceiling
    (late : ¬ (EndsInStart bytes ∧ bytes.length / maxMessageBytes < patience ceiling))
    (many : patience ceiling ≤ sliceCount bytes) :
    FirstDecides ceiling bytes (patience ceiling - 1) (.released .ceilingReached) := by
  have some := patience_pos ceiling
  have last : patience ceiling - 1 + 1 = patience ceiling := by omega
  have noise : ∀ i < patience ceiling, (queued bytes i).isNoise = true := by
    intro i early
    refine isNoise_queued (by omega) fun ⟨ends, same⟩ => late ⟨ends, by omega⟩
  refine ⟨.ceiling (noise _ (by omega)) ?_, ?_, ?_⟩
  · rw [last, noiseAmong_eq noise]
  · exact not_decides_of_noise (fun i early => noise i (by omega)) (by omega)
  · rw [last, texts_queued many, Nat.min_eq_right many]

/-- The end of the file behind slices of noise that leave some patience. -/
theorem firstDecides_closed
    (late : ¬ (EndsInStart bytes ∧ bytes.length / maxMessageBytes < patience ceiling))
    (few : sliceCount bytes < patience ceiling) :
    FirstDecides ceiling bytes (sliceCount bytes) (.released .peerClosed) := by
  have noise : ∀ i < sliceCount bytes, (queued bytes i).isNoise = true := by
    intro i early
    refine isNoise_queued early fun ⟨ends, same⟩ => late ⟨ends, by omega⟩
  refine ⟨.endOfFile (queued_outside (Nat.le_refl _)), not_decides_of_noise noise few, ?_⟩
  rw [texts_queued_last, Nat.min_eq_left (Nat.le_of_lt few)]

theorem exists_firstDecides (ceiling : UInt32) (bytes : List UInt8) :
    ∃ n ≤ sliceCount bytes, FirstDecides ceiling bytes n (queueOutcome ceiling bytes) := by
  unfold queueOutcome
  split
  · rename_i start
    have inside : bytes.length / maxMessageBytes ≤ sliceCount bytes := by
      simp only [sliceCount, maxMessageBytes]
      omega
    exact ⟨_, inside, firstDecides_start start.1 start.2⟩
  · rename_i late
    split
    · rename_i many
      exact ⟨_, by omega, firstDecides_ceiling late many⟩
    · rename_i few
      exact ⟨_, Nat.le_refl _, firstDecides_closed late (Nat.not_le.mp few)⟩

end Decides

namespace Session

/-- How a session ends that meets a queue of bytes, and what it has heard by then. -/
theorem run_queued (config : Config) (address peer : SocketAddress) (bytes : List UInt8) :
    let s := (fresh config address).run (.connected peer)
      ((slices bytes).map (fun b => .received (.ofBytes b)) ++ [.received .closed])
    s.ending = some (.ok (queueOutcome config.ceiling bytes)) ∧
      (heard s.log).map Prod.fst =
        (List.range (min (sliceCount bytes) (patience config.ceiling))).map fun i =>
          Text.Utf8.text (slice bytes i) := by
  obtain ⟨n, inside, first⟩ := exists_firstDecides config.ceiling bytes
  have verdict := verdict_of_first config address peer first.here first.before
  -- The reads up to the deciding one are the beginning of all reads.
  have whole : sliceCount bytes + 1 = n + 1 + (sliceCount bytes - n) := by omega
  show _ ∧ _
  rw [← firstReads_queued, whole, firstReads_add, verdict.last]
  exact ⟨verdict.ended, verdict.texts.trans first.texts⟩

end Session

namespace Rehearsal

variable {r : Rehearsal}

theorem steps_cons_ok {s : Step} {t : Rehearsal} (under : r.isOver = false)
    (taken : r.step s = .ok t) (script : List Step) :
    r.steps (s :: script) = (t.steps script).map fun (e, n) => (e, n + 1) := by
  rw [steps_cons under, taken]
  rfl

/-- What a controller sends before the session runs queues up. -/
theorem step_send (still : r.running = false) (speaks : r.canSpeak = true) (bytes : List UInt8) :
    r.step (.send bytes) = .ok { r with queue := r.queue ++ bytes } := by
  rw [Rehearsal.step, if_pos speaks]
  exact congrArg Except.ok (settle_still still)

theorem step_shutdown (still : r.running = false) (speaks : r.canSpeak = true) :
    r.step .shutdown = .ok { r with parting := .closed } := by
  rw [Rehearsal.step, if_pos speaks]
  exact congrArg Except.ok (settle_still still)

theorem steps_sends (still : r.running = false) (under : r.isOver = false)
    (speaks : r.canSpeak = true) (sends : List (List UInt8)) :
    r.steps (sends.map .send) =
      .ok ({ r with queue := r.queue ++ sends.flatten }, sends.length) := by
  induction sends generalizing r with
  | nil => simp [steps]
  | cons bytes sends ih =>
    rw [List.map_cons, steps_cons_ok under (step_send still speaks bytes),
      ih (r := { r with queue := r.queue ++ bytes }) still under speaks]
    simp [Except.map]

/-- A rehearsal whose controller has connected and sent bytes, and has closed its side or
not. -/
def filled (session : Session) (controller : SocketAddress) (bytes : List UInt8)
    (parting : Parting) : Rehearsal :=
  { start session .loopback controller with connected := true, queue := bytes, parting }

/-- A controller that connects, sends and closes its side does so before the session runs. -/
theorem play_filled (config : Config) (address controller : SocketAddress)
    (sends : List (List UInt8)) :
    (start (.fresh config address) .loopback controller).play
        (.connect :: sends.map .send ++ [.shutdown, .run]) =
      .ok ({ filled (.fresh config address) controller sends.flatten .closed with
        running := true }.settle.finish, sends.length + 1 + 2) := by
  have connect : (start (.fresh config address) .loopback controller).step .connect =
      .ok (filled (.fresh config address) controller [] .none) :=
    congrArg Except.ok (settle_still rfl)
  have sent : (start (.fresh config address) .loopback controller).steps
      (.connect :: sends.map .send) =
        .ok (filled (.fresh config address) controller sends.flatten .none, sends.length + 1) := by
    rw [steps_cons_ok rfl connect, steps_sends rfl rfl rfl]
    rfl
  rw [play_append sent, steps_cons_ok rfl (step_shutdown rfl rfl), steps_cons_ok rfl rfl]
  rfl

/-- **All the bytes together decide, not how they were sent.**  A controller connects, sends,
and closes its side before the session runs.  The session is released by the start signal, by
too much noise, or by the end of the connection (`queueOutcome`), and it has heard their slices,
as many as it has patience for. -/
theorem queue_decides (config : Config) (address controller : SocketAddress)
    (sends : List (List UInt8)) :
    ∃ s e n, Session.bind config (.listening address) = .ok s ∧
      (start s .loopback controller).play
        (.connect :: sends.map .send ++ [.shutdown, .run]) = .ok (e, n) ∧
      e.session.ending = some (.ok (queueOutcome config.ceiling sends.flatten)) ∧
      (heard e.session.log).map Prod.fst =
        (List.range (min (sliceCount sends.flatten) (patience config.ceiling))).map fun i =>
          Text.Utf8.text (slice sends.flatten i) := by
  refine ⟨_, _, _, Session.bind_fresh config address, play_filled config address controller sends,
    ?_⟩
  have ran : { filled (.fresh config address) controller sends.flatten .closed with
      running := true }.settle.session = (Session.fresh config address).run (.connected controller)
        ((slices sends.flatten).map (fun b => .received (.ofBytes b)) ++ [.received .closed]) :=
    settle_waiting rfl rfl rfl
  obtain ⟨ended, texts⟩ := Session.run_queued config address controller sends.flatten
  have finished : ({ filled (.fresh config address) controller sends.flatten .closed with
      running := true }.settle).isOver = true := by
    rw [isOver, ran]
    exact congrArg Option.isSome ended
  rw [finish, if_pos finished, ran]
  exact ⟨ended, texts⟩

end Rehearsal

end StartSignal.Listener
