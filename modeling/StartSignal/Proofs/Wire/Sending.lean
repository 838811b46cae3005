/-
# StartSignal.Proofs.Wire.Sending -- what a sink takes of the texts that are sent to it

A text is offered to write calls, each of which is offered what the ones before it have left,
until nothing is left or a call fails; a call that takes nothing fails too.  So what is taken is
a beginning of the text, the whole of it exactly if no call fails, and every call but a failing
one takes a byte (`Pours`).  Then, and only then, the sink is flushed.

A `Sending` is one of several sends, with the sink as it finds it.  What it does is read off the
sink before and after it: what has been added (`taken`), how many write calls and flushes there
have been, and the replies its write calls have got (`writeFailure?`).  Only the first flush can
fail, and it is called by the first send whose text is taken whole.

Main result: `sendMany_conveys`.
-/
import StartSignal.Wire.Writing

namespace StartSignal.Wire

/-! ## Write calls -/

/-- How a write call fails, if it does. -/
def WriteReply.failure? : WriteReply → Option IoError
  | .accept 0 => some ⟨.writeZero, none⟩
  | .accept (_ + 1) => none
  | .failure e => some e

/-- What has come of offering some bytes to write calls that follow a script. -/
structure Pours (script : List WriteReply) (bytes : List UInt8) (p : Pouring) : Prop where
  front : p.taken <+: bytes
  whole : p.taken = bytes ↔ p.failure = none
  /-- The first call that fails ends it. -/
  stopped : (script.take p.calls).findSome? WriteReply.failure? = p.failure
  /-- Every call that does not fail takes a byte. -/
  calls : p.calls ≤ p.taken.length + if p.failure.isSome then 1 else 0
  left : p.left = script.drop p.calls

theorem pours_pour (script : List WriteReply) (bytes : List UInt8) :
    Pours script bytes (pour script bytes) := by
  fun_induction pour script bytes with
  | case1 script => exact ⟨List.prefix_rfl, iff_of_true rfl rfl, rfl, Nat.le_refl 0, rfl⟩
  | case2 bytes some =>
    have one := List.length_pos_iff.mpr some
    exact ⟨List.prefix_rfl, iff_of_true rfl rfl, rfl, one, rfl⟩
  | case3 e script bytes some =>
    exact ⟨List.nil_prefix, iff_of_false (Ne.symm some) nofun, rfl, Nat.le_refl 1, rfl⟩
  | case4 script bytes some =>
    exact ⟨List.nil_prefix, iff_of_false (Ne.symm some) nofun, rfl, Nat.le_refl 1, rfl⟩
  | case5 n script bytes some rest ih =>
    have split := List.take_append_drop (n + 1) bytes
    constructor
    case front =>
      show bytes.take (n + 1) ++ rest.taken <+: bytes
      conv => rhs; rw [← split]
      exact (List.prefix_append_right_inj _).mpr ih.front
    case whole =>
      show bytes.take (n + 1) ++ rest.taken = bytes ↔ rest.failure = none
      conv => lhs; rhs; rw [← split]
      rw [List.append_cancel_left_eq]
      exact ih.whole
    case stopped => exact ih.stopped
    case calls =>
      have some' := List.length_pos_iff.mpr some
      have calls : rest.calls ≤ rest.taken.length + if rest.failure.isSome then 1 else 0 :=
        ih.calls
      show rest.calls + 1 ≤ (bytes.take (n + 1) ++ rest.taken).length + _
      rw [List.length_append, List.length_take]
      dsimp only
      omega
    case left => exact ih.left

namespace Sink

/-! ## One send -/

def poured (s : Sink) (p : Pouring) : Sink :=
  { s with script := p.left, written := s.written ++ p.taken, writes := s.writes + p.calls }

theorem send_broken {s : Sink} {text : String} {e : IoError}
    (failed : (pour s.script (Text.Utf8.bytes text)).failure = some e) :
    s.send text = (.error ⟨e⟩, s.poured (pour s.script (Text.Utf8.bytes text))) := by
  simp only [send, sendBytes, failed]
  rfl

theorem send_flush {s : Sink} {text : String}
    (whole : (pour s.script (Text.Utf8.bytes text)).failure = none) :
    s.send text = (s.poured (pour s.script (Text.Utf8.bytes text))).flush := by
  simp only [send, sendBytes, whole]
  rfl

end Sink

/-- A send, with the sink as it finds it. -/
structure Sending where
  before : Sink
  text : String

namespace Sending

def bytes (x : Sending) : List UInt8 := Text.Utf8.bytes x.text

def result (x : Sending) : Except WireError Unit := (x.before.send x.text).1

def after (x : Sending) : Sink := (x.before.send x.text).2

def taken (x : Sending) : List UInt8 := x.after.written.drop x.before.written.length

def writes (x : Sending) : Nat := x.after.writes - x.before.writes

def flushes (x : Sending) : Nat := x.after.flushes - x.before.flushes

/-- The failure of a write call, if there is one among those it has made. -/
def writeFailure? (x : Sending) : Option IoError :=
  (x.before.script.take x.writes).findSome? WriteReply.failure?

/-- It has failed, but in none of its write calls. -/
def FailsFlushing (x : Sending) : Prop := x.writeFailure? = none ∧ ∃ e, x.result = .error e

/-- What the write calls of it come to. -/
def pouring (x : Sending) : Pouring := pour x.before.script x.bytes

variable (x : Sending)

theorem pours : Pours x.before.script x.bytes x.pouring := pours_pour _ _

/-- Where a write call fails, the send ends. -/
theorem send_of_failure {e : IoError} (failed : x.pouring.failure = some e) :
    x.result = .error ⟨e⟩ ∧ x.after = x.before.poured x.pouring := by
  unfold result after
  rw [Sink.send_broken failed]
  exact ⟨rfl, rfl⟩

/-- Where none fails, the sink is flushed. -/
theorem send_of_whole (whole : x.pouring.failure = none) :
    x.result = (match x.before.flushFailure with | some e => .error ⟨e⟩ | none => .ok ()) ∧
      x.after = { x.before.poured x.pouring with
        flushes := x.before.flushes + 1, flushFailure := none } := by
  have flush : x.before.send x.text = (x.before.poured x.pouring).flush := Sink.send_flush whole
  unfold result after
  rw [flush, Sink.flush]
  dsimp only [Sink.poured]
  cases x.before.flushFailure <;> exact ⟨rfl, rfl⟩

/-- Whether a write call fails or not, what has been written and called is the pouring's. -/
theorem after_poured :
    x.after.written = x.before.written ++ x.pouring.taken ∧
      x.after.writes = x.before.writes + x.pouring.calls ∧
      x.after.script = x.pouring.left := by
  cases failure : x.pouring.failure with
  | some e =>
    rw [(x.send_of_failure failure).2]
    exact ⟨rfl, rfl, rfl⟩
  | none =>
    rw [(x.send_of_whole failure).2]
    exact ⟨rfl, rfl, rfl⟩

theorem taken_eq : x.taken = x.pouring.taken := by
  rw [taken, x.after_poured.1, List.drop_left]

theorem writes_eq : x.writes = x.pouring.calls := by
  rw [writes, x.after_poured.2.1, Nat.add_sub_cancel_left]

theorem writeFailure?_eq : x.writeFailure? = x.pouring.failure := by
  rw [writeFailure?, writes_eq]
  exact x.pours.stopped

theorem taken_eq_bytes_iff : x.taken = x.bytes ↔ x.writeFailure? = none := by
  rw [taken_eq, writeFailure?_eq]
  exact x.pours.whole

/-- What a send has done. -/
structure Conveys : Prop where
  /-- The sink has taken a beginning of the text, behind all that it had. -/
  front : x.taken <+: x.bytes
  written : x.after.written = x.before.written ++ x.taken
  /-- A text that is sent has been taken whole. -/
  sent : x.result = .ok () → x.taken = x.bytes
  /-- A write that fails leaves a part of the text, and no flush follows it. -/
  unwritten : ∀ e, x.writeFailure? = some e →
    x.result = .error ⟨e⟩ ∧ x.taken ≠ x.bytes ∧ x.flushes = 0
  /-- A flush that fails comes after all of the text. -/
  unflushed : ∀ e, x.writeFailure? = none → x.result = .error e →
    x.taken = x.bytes ∧ x.flushes = 1 ∧ x.before.flushFailure = some e.source
  /-- The write calls meet the replies that come next, and leave the others. -/
  script : x.after.script = x.before.script.drop x.writes

theorem flushes_eq : x.after.flushes = x.before.flushes + if x.taken = x.bytes then 1 else 0 := by
  simp only [taken_eq_bytes_iff, writeFailure?_eq]
  cases failure : x.pouring.failure with
  | some e =>
    rw [(x.send_of_failure failure).2]
    rfl
  | none =>
    rw [(x.send_of_whole failure).2]
    rfl

theorem writes_le : x.writes ≤ x.taken.length + if x.writeFailure?.isSome then 1 else 0 := by
  rw [writes_eq, taken_eq, writeFailure?_eq]
  exact x.pours.calls

theorem conveys : x.Conveys := by
  obtain ⟨written, -, script⟩ := x.after_poured
  constructor
  case front =>
    rw [taken_eq]
    exact x.pours.front
  case written => rw [written, taken_eq]
  case script => rw [script, writes_eq, x.pours.left]
  case sent =>
    intro ok
    rw [taken_eq_bytes_iff, writeFailure?_eq]
    cases failure : x.pouring.failure with
    | none => rfl
    | some e =>
      rw [(x.send_of_failure failure).1] at ok
      cases ok
  case unwritten =>
    intro e failed
    have part : x.taken ≠ x.bytes := by
      rw [Ne, taken_eq_bytes_iff, failed]
      nofun
    have none : x.flushes = 0 := by
      rw [flushes, flushes_eq, if_neg part]
      omega
    rw [writeFailure?_eq] at failed
    exact ⟨(x.send_of_failure failed).1, part, none⟩
  case unflushed =>
    intro e unfailed error
    have all : x.taken = x.bytes := x.taken_eq_bytes_iff.mpr unfailed
    have one : x.flushes = 1 := by
      rw [flushes, flushes_eq, if_pos all]
      omega
    rw [writeFailure?_eq] at unfailed
    rw [(x.send_of_whole unfailed).1] at error
    refine ⟨all, one, ?_⟩
    split at error <;> cases error
    assumption

end Sending

/-- A text that is sent is written whole. -/
theorem Sink.written_of_send {s after : Sink} {text : String}
    (sent : s.send text = (.ok (), after)) :
    after.written = s.written ++ Text.Utf8.bytes text := by
  have conveys := Sending.conveys ⟨s, text⟩
  have all := conveys.sent (congrArg Prod.fst sent)
  have left : Sending.after ⟨s, text⟩ = after := congrArg Prod.snd sent
  have written := conveys.written
  rw [all, left] at written
  exact written

/-! ## Sends in turn -/

/-- The sends of some texts in turn, each with the sink as the one before it leaves it. -/
def Sink.sendings : Sink → List String → List Sending
  | _, [] => []
  | s, t :: ts => ⟨s, t⟩ :: (Sending.after ⟨s, t⟩).sendings ts

namespace Sink

variable (s : Sink) (texts : List String)

theorem sendMany_cons (t : String) :
    s.sendMany (t :: texts) =
      (Sending.result ⟨s, t⟩ :: ((Sending.after ⟨s, t⟩).sendMany texts).1,
        ((Sending.after ⟨s, t⟩).sendMany texts).2) := rfl

theorem map_text_sendings : (s.sendings texts).map Sending.text = texts := by
  induction texts generalizing s with
  | nil => rfl
  | cons t texts ih => rw [sendings, List.map_cons, ih]

theorem map_result_sendings : (s.sendings texts).map Sending.result = (s.sendMany texts).1 := by
  induction texts generalizing s with
  | nil => rfl
  | cons t texts ih => rw [sendings, List.map_cons, ih, sendMany_cons]

theorem written_sendMany :
    (s.sendMany texts).2.written = s.written ++ (s.sendings texts).flatMap Sending.taken := by
  induction texts generalizing s with
  | nil => exact (List.append_nil _).symm
  | cons t texts ih =>
    have first := (Sending.conveys ⟨s, t⟩).written
    rw [sendMany_cons, sendings, List.flatMap_cons, ih, first, List.append_assoc]

theorem flushes_sendMany :
    (s.sendMany texts).2.flushes =
      s.flushes + (s.sendings texts).countP fun x => x.taken = x.bytes := by
  induction texts generalizing s with
  | nil => rfl
  | cons t texts ih =>
    have first := Sending.flushes_eq ⟨s, t⟩
    rw [sendMany_cons, sendings, List.countP_cons, ih, first]
    simp only [decide_eq_true_eq]
    omega

theorem writes_sendMany_le :
    (s.sendMany texts).2.writes ≤
      s.writes + ((s.sendings texts).flatMap Sending.taken).length +
        (s.sendings texts).countP fun x => x.writeFailure?.isSome := by
  induction texts generalizing s with
  | nil => exact Nat.le_refl _
  | cons t texts ih =>
    have first := Sending.writes_le ⟨s, t⟩
    have next := ih (Sending.after ⟨s, t⟩)
    rw [(Sending.after_poured ⟨s, t⟩).2.1, ← Sending.writes_eq] at next
    rw [sendMany_cons, sendings, List.flatMap_cons, List.length_append, List.countP_cons]
    dsimp only at next ⊢
    omega

/-- A flush that fails is the first. -/
theorem first_of_failsFlushing {earlier later : List Sending} {x : Sending}
    (sends : s.sendings texts = earlier ++ x :: later) (fails : x.FailsFlushing) :
    s.flushFailure ≠ none ∧ ∀ y ∈ earlier, y.taken ≠ y.bytes := by
  induction texts generalizing s earlier with
  | nil => cases earlier <;> cases sends
  | cons t texts ih =>
    cases earlier with
    | nil =>
      obtain ⟨rfl, -⟩ := List.cons.inj sends
      obtain ⟨unfailed, e, error⟩ := fails
      obtain ⟨-, -, failure⟩ := (Sending.conveys ⟨s, t⟩).unflushed e unfailed error
      rw [show s.flushFailure = some e.source from failure]
      exact ⟨nofun, List.forall_mem_nil _⟩
    | cons y earlier =>
      obtain ⟨rfl, rest⟩ := List.cons.inj sends
      obtain ⟨unflushed, others⟩ := ih _ rest
      cases failure : (Sending.pouring ⟨s, t⟩).failure with
      | none =>
        rw [(Sending.send_of_whole _ failure).2] at unflushed
        exact absurd rfl unflushed
      | some e =>
        rw [(Sending.send_of_failure _ failure).2] at unflushed
        refine ⟨unflushed, List.forall_mem_cons.mpr ⟨?_, others⟩⟩
        rw [Ne, Sending.taken_eq_bytes_iff, Sending.writeFailure?_eq, failure]
        nofun

end Sink

/-! ## Main result -/

/-- What some sends in turn have done to a sink that had taken nothing before. -/
structure Conveyed (texts : List String) (sends : List Sending)
    (results : List (Except WireError Unit)) (sink : Sink) : Prop where
  texts : sends.map Sending.text = texts
  results : sends.map Sending.result = results
  each : ∀ x ∈ sends, x.Conveys
  /-- The sink has what each of them has added, in turn, and nothing else. -/
  written : sink.written = sends.flatMap Sending.taken
  /-- Only the first whose text is taken whole can fail in its flush. -/
  first : ∀ earlier x later, sends = earlier ++ x :: later → x.FailsFlushing →
    ∀ y ∈ earlier, y.taken ≠ y.bytes
  flushes : sink.flushes = sends.countP fun x => x.taken = x.bytes
  writes : sink.writes ≤ sink.written.length + sends.countP fun x => x.writeFailure?.isSome

/-- **No byte is repeated, and none is skipped.**  Whatever the write calls of a sink take, and
wherever they fail, the sink has a beginning of each text that is sent to it, one after the
other, and nothing else; each is whole exactly if no write of it fails, and then the sink is
flushed once.  Every write call takes a byte, but for one in each send that fails in a write. -/
theorem sendMany_conveys (script : List WriteReply) (flushFailure : Option IoError)
    (texts : List String) :
    Conveyed texts ((Sink.ofScript script flushFailure).sendings texts)
      ((Sink.ofScript script flushFailure).sendMany texts).1
      ((Sink.ofScript script flushFailure).sendMany texts).2 := by
  generalize same : Sink.ofScript script flushFailure = sink
  have nothing : sink.written = [] ∧ sink.writes = 0 ∧ sink.flushes = 0 := by
    rw [← same]
    exact ⟨rfl, rfl, rfl⟩
  obtain ⟨unwritten, uncalled, unflushed⟩ := nothing
  have written := sink.written_sendMany texts
  rw [unwritten, List.nil_append] at written
  constructor
  case texts => exact sink.map_text_sendings texts
  case results => exact sink.map_result_sendings texts
  case each => exact fun x _ => x.conveys
  case written => exact written
  case first =>
    intro earlier x later sends fails
    exact (sink.first_of_failsFlushing texts sends fails).2
  case flushes =>
    have flushes := sink.flushes_sendMany texts
    rwa [unflushed, Nat.zero_add] at flushes
  case writes =>
    have writes := sink.writes_sendMany_le texts
    rwa [uncalled, Nat.zero_add, ← written] at writes

/-- A text that breaks off leaves its beginning, and the next one goes behind it. -/
example :
    let sink := Sink.ofScript [.accept 2, .failure ⟨.connectionReset, none⟩] none
    (sink.sendMany ["start", "stop"]).2.written = Text.Utf8.bytes "ststop" ∧
      (sink.sendMany ["start", "stop"]).2.flushes = 1 := by
  decide

end StartSignal.Wire
