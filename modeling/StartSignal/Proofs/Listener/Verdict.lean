/-
# StartSignal.Proofs.Listener.Verdict -- what decides how a session ends

A session that has a controller meets one occurrence after the other: a chunk of bytes,
the end of the file, a failure, a cancellation.  A chunk of the five bytes of the token is the
start signal and any other chunk is noise.  Noise changes nothing but the count, until it has
used up the patience (`Quiet.next`).  Everything else decides
(`Decides`), and the first occurrence that does ends the session (`Quiet.decided`).  No
sequence of occurrences keeps a session beyond its patience, however long it goes on
(`Quiet.below`).

Main result: `run_decided`.
-/
import Mathlib.Data.Nat.Find
import StartSignal.Proofs.Listener.Script
import StartSignal.Proofs.Wire.Slices

namespace StartSignal.Listener

open Log

/-- Bytes that arrive together and that one read can take. -/
structure Chunk where
  bytes : List UInt8
  nonempty : bytes ≠ []
  fits : bytes.length ≤ Wire.maxMessageBytes

theorem Chunk.isStart_iff (c : Chunk) :
    (Message.decode (Text.Utf8.text c.bytes)).isStart = true ↔ c.bytes = Wire.tokenBytes :=
  Wire.isStart_text_iff c.bytes

/-- What a session meets while it waits on its connection. -/
inductive Occurrence where
  | chunk (c : Chunk)
  | endOfFile
  | failure (e : IoError)
  | cancellation

namespace Occurrence

/-- How the wait on the connection ends. -/
def read : Occurrence → Read
  | .chunk c => .received (Wire.receive [.chunk c.bytes]).1
  | .endOfFile => .received (Wire.receive [.endOfStream]).1
  | .failure e => .received (Wire.receive [.failure e]).1
  | .cancellation => .cancelled

/-- Whether it is a chunk of other bytes than those of the start signal. -/
def isNoise : Occurrence → Bool
  | .chunk c => c.bytes ≠ Wire.tokenBytes
  | _ => false

theorem read_chunk (c : Chunk) :
    (Occurrence.chunk c).read = .received (.text (Text.Utf8.text c.bytes)) := by
  have filled : c.bytes.isEmpty = false := by simpa using c.nonempty
  simp [read, Wire.receive, Wire.Reception.ofBytes, List.take_of_length_le c.fits, filled]

theorem exists_of_isNoise {o : Occurrence} (isNoise : o.isNoise = true) :
    ∃ c, o = .chunk c ∧ (Message.decode (Text.Utf8.text c.bytes)).isStart = false := by
  cases o with
  | chunk c =>
    have other : c.bytes ≠ Wire.tokenBytes := of_decide_eq_true isNoise
    refine ⟨c, rfl, ?_⟩
    rwa [Bool.eq_false_iff, ne_eq, c.isStart_iff]
  | endOfFile => cases isNoise
  | failure e => cases isNoise
  | cancellation => cases isNoise

end Occurrence

/-- How many of the first occurrences are noise. -/
def noiseAmong (env : Nat → Occurrence) (n : Nat) : Nat :=
  (List.range n).countP fun i => (env i).isNoise

/-- The occurrence at a place decides how a session ends. -/
inductive Decides (ceiling : UInt32) (env : Nat → Occurrence) (n : Nat) : Outcome → Prop where
  | start {c : Chunk} (here : env n = .chunk c) (token : c.bytes = Wire.tokenBytes) :
    Decides ceiling env n (.released .startReceived)
  /-- The noise that uses up the patience. -/
  | ceiling (here : (env n).isNoise = true) (last : noiseAmong env (n + 1) = patience ceiling) :
    Decides ceiling env n (.released .ceilingReached)
  | endOfFile (here : env n = .endOfFile) : Decides ceiling env n (.released .peerClosed)
  | failure {e : IoError} (here : env n = .failure e) :
    Decides ceiling env n (.released .readFailed)
  | cancellation (here : env n = .cancellation) : Decides ceiling env n .terminated

/-- How the first waits on the connection end. -/
def firstReads (env : Nat → Occurrence) (n : Nat) : List Read :=
  (List.range n).map fun i => (env i).read

theorem noiseAmong_succ (env : Nat → Occurrence) (n : Nat) :
    noiseAmong env (n + 1) = noiseAmong env n + if (env n).isNoise then 1 else 0 := by
  simp [noiseAmong, List.range_succ, List.countP_singleton]

theorem firstReads_succ (env : Nat → Occurrence) (n : Nat) :
    firstReads env (n + 1) = firstReads env n ++ [(env n).read] := by
  simp [firstReads, List.range_succ]

/-- An occurrence that is not noise always decides. -/
theorem decides_of_not_noise (ceiling : UInt32) {env : Nat → Occurrence} {n : Nat}
    (other : (env n).isNoise = false) : ∃ o, Decides ceiling env n o := by
  cases here : env n with
  | chunk c =>
    have token : c.bytes = Wire.tokenBytes := by
      rw [here] at other
      exact of_not_not (of_decide_eq_false other)
    exact ⟨_, .start here token⟩
  | endOfFile => exact ⟨_, .endOfFile here⟩
  | failure e => exact ⟨_, .failure here⟩
  | cancellation => exact ⟨_, .cancellation here⟩

theorem noiseAmong_eq {env : Nat → Occurrence} {n : Nat}
    (noise : ∀ i < n, (env i).isNoise = true) :
    noiseAmong env n = n := by
  induction n with
  | zero => rfl
  | succ n ih =>
    rw [noiseAmong_succ, ih fun i early => noise i (Nat.lt_succ_of_lt early),
      noise n (Nat.lt_succ_self n)]
    rfl

/-- Noise that leaves some patience decides nothing. -/
theorem not_decides_of_noise {ceiling : UInt32} {env : Nat → Occurrence} {n : Nat}
    (noise : ∀ i < n, (env i).isNoise = true) (few : n < patience ceiling) :
    ∀ i < n, ∀ o, ¬ Decides ceiling env i o := by
  intro i early o decides
  have here := noise i early
  cases decides with
  | ceiling _ last =>
    rw [noiseAmong_eq fun j early' => noise j (by omega)] at last
    omega
  | start chunk token =>
    rw [chunk] at here
    exact of_decide_eq_true here token
  | endOfFile same | failure same | cancellation same => rw [same] at here; cases here

/-- Two chunks of noise, the second the start signal with a blank behind it, and then the
start signal. -/
def lastChance : Nat → Occurrence
  | 0 => .chunk ⟨[112, 105, 110, 103], by simp, by decide⟩
  | 1 => .chunk ⟨[115, 116, 97, 114, 116, 32], by simp, by decide⟩
  | 2 => .chunk ⟨[115, 116, 97, 114, 116], by simp, by decide⟩
  | _ => .endOfFile

theorem isNoise_lastChance : ∀ i < 2, (lastChance i).isNoise = true := by decide

namespace Session

/-- A session has met occurrences that decide nothing. -/
structure Quiet (env : Nat → Occurrence) (n : Nat) (s : Session) : Prop where
  settled : s.Settled
  going : s.ending = none
  counted : ∃ noise, s.state = .reading noise ∧ noise.toNat = n
  noise : noiseAmong env n = n
  texts : (heard s.log).map Prod.fst = (firstReads env n).filterMap Read.text?

variable {env : Nat → Occurrence} {n : Nat} {s : Session}

/-- Undecided is a session only while it has patience. -/
theorem Quiet.below (quiet : Quiet env n s) : n < patience s.config.ceiling := by
  obtain ⟨noise, reading, rfl⟩ := quiet.counted
  exact (quiet.settled.faithful.counted noise reading).2

theorem Quiet.texts_follow (quiet : Quiet env n s) :
    (heard (s.follow [(env n).read]).log).map Prod.fst =
      (firstReads env (n + 1)).filterMap Read.text? := by
  obtain ⟨noise, reading, -⟩ := quiet.counted
  rw [heard_follow_one quiet.going reading, List.map_append, quiet.texts, firstReads_succ,
    List.filterMap_append]
  cases text : (env n).read.text? <;> simp [text]

/-- An occurrence that does not decide is noise, and is counted. -/
theorem Quiet.next (quiet : Quiet env n s)
    (undecided : ∀ o, ¬ Decides s.config.ceiling env n o) :
    Quiet env (n + 1) (s.follow [(env n).read]) := by
  obtain ⟨noise, reading, count⟩ := quiet.counted
  have below := quiet.below
  have isNoise : (env n).isNoise = true := by
    cases isNoise : (env n).isNoise with
    | true => rfl
    | false =>
      obtain ⟨o, decides⟩ := decides_of_not_noise s.config.ceiling isNoise
      exact absurd decides (undecided o)
  have among : noiseAmong env (n + 1) = n + 1 := by
    rw [noiseAmong_succ, quiet.noise, isNoise]
    rfl
  -- Noise that does not decide is not the last that is borne.
  have early : n + 1 < patience s.config.ceiling := by
    have notLast : n + 1 ≠ patience s.config.ceiling := fun last =>
      undecided _ (.ceiling isNoise (among.trans last))
    omega
  have goesOn : (env n).read.leadsTo noise s.config.ceiling = .reading (noise + 1) := by
    obtain ⟨c, here, noStart⟩ := Occurrence.exists_of_isNoise isNoise
    rw [here, Occurrence.read_chunk]
    exact State.afterMessage_below noStart (by omega)
  refine ⟨quiet.settled.read _, ?_, ⟨noise + 1, ?_, ?_⟩, among, quiet.texts_follow⟩
  · rw [ending_follow_one quiet.going reading, goesOn]
    rfl
  · rw [state_follow_one quiet.going reading, goesOn]
  · have below' : noise.toNat < patience s.config.ceiling := by omega
    rw [toNat_succ below', count]

/-- An occurrence that decides ends the session in its outcome. -/
theorem Quiet.decided (quiet : Quiet env n s) {o : Outcome}
    (decides : Decides s.config.ceiling env n o) :
    (s.follow [(env n).read]).ending = some (.ok o) := by
  obtain ⟨noise, reading, count⟩ := quiet.counted
  rw [ending_follow_one quiet.going reading]
  cases decides with
  | @start c here token =>
    have isStart := Message.isStart_iff.mp (c.isStart_iff.mpr token)
    rw [here, Occurrence.read_chunk, Read.leadsTo, isStart, State.afterMessage_start]
    rfl
  | ceiling isNoise last =>
    have final : noise.toNat + 1 = patience s.config.ceiling := by
      rw [noiseAmong_succ, quiet.noise, isNoise] at last
      rw [count]
      exact last
    obtain ⟨c, here, noStart⟩ := Occurrence.exists_of_isNoise isNoise
    have leads := State.afterMessage_last noStart final
    rw [here, Occurrence.read_chunk, Read.leadsTo, leads]
    rfl
  | endOfFile here => rw [here]; rfl
  | failure here => rw [here]; rfl
  | cancellation here => rw [here]; rfl

/-! ## Whole runs -/

/-- While nothing decides, a session reads on. -/
theorem quiet_run (config : Config) (address peer : SocketAddress) {env : Nat → Occurrence}
    {n : Nat} (undecided : ∀ i < n, ∀ o, ¬ Decides config.ceiling env i o) :
    Quiet env n ((fresh config address).run (.connected peer) (firstReads env n)) := by
  induction n with
  | zero =>
    have reading : ((fresh config address).connect peer).state = .reading 0 := by
      rw [connect_fresh]
    show Quiet env 0 (((fresh config address).connect peer).follow [])
    rw [follow_nil reading]
    refine ⟨settled_connect config address peer, rfl, ⟨0, reading, rfl⟩, rfl, ?_⟩
    have numbered := (settled_connect config address peer).faithful.numbered
    rw [List.map_eq_nil_iff.mp numbered]
    rfl
  | succ n ih =>
    have quiet := ih fun i early => undecided i (Nat.lt_succ_of_lt early)
    have undecided' := undecided n (Nat.lt_succ_self n)
    rw [← config_run config address (.connected peer) (firstReads env n)] at undecided'
    have next := quiet.next undecided'
    rw [firstReads_succ]
    unfold run at next ⊢
    rw [follow_append]
    exact next

/-- Among the occurrences that the patience allows for, some decides, and so one is the
first. -/
theorem exists_first_decides (config : Config) (address peer : SocketAddress)
    (env : Nat → Occurrence) :
    ∃ n o, n < patience config.ceiling ∧ Decides config.ceiling env n o ∧
      ∀ i < n, ∀ o', ¬ Decides config.ceiling env i o' := by
  classical
  have decided : ∃ n o, Decides config.ceiling env n o := by
    -- Else the session would still be quiet when its patience is used up.
    by_contra never
    have undecided : ∀ i < patience config.ceiling, ∀ o, ¬ Decides config.ceiling env i o :=
      fun i _ o decides => never ⟨i, o, decides⟩
    have below := (quiet_run config address peer undecided).below
    rw [config_run] at below
    exact Nat.lt_irrefl _ below
  have before : ∀ i < Nat.find decided, ∀ o, ¬ Decides config.ceiling env i o :=
    fun i early o decides => Nat.find_min decided early ⟨o, decides⟩
  obtain ⟨o, decides⟩ := Nat.find_spec decided
  have below := (quiet_run config address peer before).below
  rw [config_run] at below
  exact ⟨Nat.find decided, o, below, decides, before⟩

/-- The occurrence at a place has decided how a session ends. -/
structure Verdict (s : Session) (peer : SocketAddress) (env : Nat → Occurrence) (n : Nat)
    (o : Outcome) : Prop where
  /-- Nothing before it has ended the session. -/
  going : ∀ k ≤ n, (s.run (.connected peer) (firstReads env k)).ending = none
  ended : (s.run (.connected peer) (firstReads env (n + 1))).ending = some (.ok o)
  /-- Nothing after it is waited for. -/
  last : ∀ rest, s.run (.connected peer) (firstReads env (n + 1) ++ rest) =
    s.run (.connected peer) (firstReads env (n + 1))
  /-- All messages up to it have been received. -/
  texts : (heard (s.run (.connected peer) (firstReads env (n + 1))).log).map Prod.fst =
    (firstReads env (n + 1)).filterMap Read.text?
  /-- They are no more than the patience. -/
  few : (heard (s.run (.connected peer) (firstReads env (n + 1))).log).length ≤
    patience s.config.ceiling

theorem verdict_of_first (config : Config) (address peer : SocketAddress)
    {env : Nat → Occurrence} {n : Nat} {o : Outcome} (decides : Decides config.ceiling env n o)
    (before : ∀ i < n, ∀ o', ¬ Decides config.ceiling env i o') :
    Verdict (fresh config address) peer env n o := by
  have quiet := quiet_run config address peer before
  have same := config_run config address (.connected peer) (firstReads env n)
  have onward : ∀ rest,
      (fresh config address).run (.connected peer) (firstReads env (n + 1) ++ rest) =
        (((fresh config address).run (.connected peer) (firstReads env n)).follow
          [(env n).read]).follow rest := by
    intro rest
    unfold run
    rw [firstReads_succ, follow_append, follow_append]
  have ended := quiet.decided (by rw [same]; exact decides)
  have whole : (fresh config address).run (.connected peer) (firstReads env (n + 1)) =
      ((fresh config address).run (.connected peer) (firstReads env n)).follow
        [(env n).read] := by
    rw [← List.append_nil (firstReads env (n + 1)), onward, follow_ended (by simp [ended])]
  have texts := quiet.texts_follow
  have below := quiet.below
  rw [same] at below
  rw [← whole] at ended texts
  constructor
  case going =>
    intro k early
    exact (quiet_run config address peer fun i lt => before i (Nat.lt_of_lt_of_le lt early)).going
  case ended => exact ended
  case last =>
    intro rest
    rw [onward, ← whole, follow_ended (by simp [ended])]
  case texts => exact texts
  case few =>
    have count := congrArg List.length texts
    have most := List.length_filterMap_le Read.text? (firstReads env (n + 1))
    have length : (firstReads env (n + 1)).length = n + 1 := by simp [firstReads]
    rw [List.length_map] at count
    show _ ≤ patience config.ceiling
    omega

/-- **The first occurrence that decides is how a session ends**, once it has a controller, and
there is one before its patience is used up.  It has received the messages up to then and waits
for nothing more.  A session times out exactly when its wait for a controller ends with the idle
timeout: when neither a cancellation nor a connection is at hand as the timeout passes. -/
theorem run_decided (config : Config) (address peer : SocketAddress) (env : Nat → Occurrence) :
    ∃ s, bind config (.listening address) = .ok s ∧
      (∃ n o, n < patience config.ceiling ∧ Decides config.ceiling env n o ∧
        (∀ i < n, ∀ o', ¬ Decides config.ceiling env i o') ∧ Verdict s peer env n o) ∧
      (∀ wait reads, (s.run wait reads).ending = some (.ok .timedOut) ↔ wait = .elapsed) ∧
      (∀ route controller script e n,
        (Rehearsal.start s route controller).play script = .ok (e, n) →
        (e.session.ending = some (.ok .timedOut) ↔
          e.expired = true ∧ e.connected = false ∧ e.cancelled = false)) := by
  refine ⟨_, bind_fresh config address, ?_, ?_, ?_⟩
  case refine_1 =>
    obtain ⟨n, o, below, decides, before⟩ := exists_first_decides config address peer env
    exact ⟨n, o, below, decides, before, verdict_of_first config address peer decides before⟩
  case refine_2 => exact run_timedOut_iff config address
  case refine_3 =>
    intro route controller script e n played
    have begun := Rehearsal.stage_start config address route controller
    exact Rehearsal.play_timedOut_iff begun played

/-- With a patience of three the start signal comes just in time, with a patience of two it
is too late. -/
theorem run_decided_lastChance :
    let peer : SocketAddress := ⟨.v4 ⟨127, 0, 0, 1⟩, 40000, 0⟩
    (∃ s, bind { Config.standard with ceiling := 3 } (.listening peer) = .ok s ∧
      (s.run (.connected peer) (firstReads lastChance 2)).ending = none ∧
      (s.run (.connected peer) (firstReads lastChance 3)).ending =
        some (.ok (.released .startReceived)) ∧
      (heard (s.run (.connected peer) (firstReads lastChance 3)).log).map Prod.fst =
        ["ping", "start ", "start"] ∧
      (s.run .elapsed []).ending = some (.ok .timedOut)) ∧
    ∃ s, bind { Config.standard with ceiling := 2 } (.listening peer) = .ok s ∧
      (s.run (.connected peer) (firstReads lastChance 2)).ending =
        some (.ok (.released .ceilingReached)) := by
  intro peer
  constructor
  · obtain ⟨s, bound, ⟨n, o, below, decides, -, verdict⟩, timeout, -⟩ :=
      run_decided { Config.standard with ceiling := 3 } peer peer lastChance
    have late : ¬ n < 2 := fun early =>
      not_decides_of_noise isNoise_lastChance (by decide : 2 < patience 3) n early o decides
    have last : n = 2 := by
      have most : n < 3 := below
      omega
    subst last
    have outcome : o = .released .startReceived := by
      cases decides with
      | start => rfl
      | ceiling isNoise => exact absurd isNoise (by decide)
      | endOfFile here | failure here | cancellation here => cases here
    subst outcome
    refine ⟨s, bound, verdict.going 2 (Nat.le_refl 2), verdict.ended, ?_, (timeout _ _).mpr rfl⟩
    rw [verdict.texts]
    rfl
  · obtain ⟨s, bound, ⟨n, o, below, decides, -, verdict⟩, -⟩ :=
      run_decided { Config.standard with ceiling := 2 } peer peer lastChance
    have late : ¬ n < 1 := fun early =>
      not_decides_of_noise (fun i le => isNoise_lastChance i (Nat.lt_succ_of_lt le))
        (by decide : 1 < patience 2) n early o decides
    have last : n = 1 := by
      have most : n < 2 := below
      omega
    subst last
    have outcome : o = .released .ceilingReached := by
      cases decides with
      | start here token =>
        cases here
        exact absurd token (by decide)
      | ceiling => rfl
      | endOfFile here | failure here | cancellation here => cases here
    subst outcome
    exact ⟨s, bound, verdict.ended⟩

end Session

end StartSignal.Listener
