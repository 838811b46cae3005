/-
# StartSignal.Proofs.Program.Provenance -- where the records come from that a run shows

Every part of the program makes its own records.  A session grows its log by records of its
own only, whatever is played to it: what each thing that it does leaves alone (`Steady`), a
session keeps to its end (`Steady.kept`).  A dispatch and the commands make the others.  None
of them is made by the loader of settings, which has done its work before there is a log.

Main result: `elsewhere_run`.
-/
import StartSignal.Proofs.Program.Attendance

namespace StartSignal

open Log

/-- A record is not made by the loader of settings and has no variable for its key. -/
structure Elsewhere (r : Record) : Prop where
  target : r.target ≠ Source.loader.target
  unnamed : r.field? "key" = none

section Record

variable {source : Source} {level : Level} {text : String} {fields : List (String × FieldValue)}
  (other : source ≠ .loader) (unnamed : ∀ f ∈ fields, f.1 ≠ "key")
include other unnamed

theorem elsewhere_record : Elsewhere (source.record level text fields) := by
  constructor
  · show source.target ≠ Source.loader.target
    cases source with
    | loader => exact absurd rfl other
    | _ => decide
  · have absent : fields.find? (fun f => f.1 = "key") = none := by
      simpa only [List.find?_eq_none, decide_eq_true_eq] using unnamed
    simp only [Record.field?, Source.record, absent, Option.map_none]

theorem elsewhere_singleton : ∀ r ∈ [source.record level text fields], Elsewhere r :=
  List.forall_mem_singleton.mpr (elsewhere_record other unnamed)

end Record

/-! ## Sessions -/

namespace Listener

namespace Session

theorem peerField_unnamed (s : Session) : ∀ f ∈ s.peerField, f.1 ≠ "key" := by
  unfold peerField
  cases s.peer <;> simp

theorem elsewhere_cause (s : Session) (r : Read) : Elsewhere (s.cause r) := by
  have peer := s.peerField_unnamed
  rcases r with _ | (t | _ | e)
  case cancelled => exact elsewhere_record (by decide) (by simpa using peer)
  case received.text => exact elsewhere_record (by decide) (by simp)
  case received.closed => exact elsewhere_record (by decide) peer
  case received.failed =>
    refine elsewhere_record (by decide) (List.forall_mem_append.mpr ⟨peer, ?_⟩)
    simp

/-- What a session does leaves a property of it alone, one thing after the other. -/
structure Steady (P : Session → Prop) : Prop where
  note : ∀ {s : Session} {r : Record}, Elsewhere r → P s → P (s.note r)
  apply : ∀ {s : Session} (e : Event), P s → P (s.apply e)
  close : ∀ {s : Session}, P s → P s.close
  fail : ∀ {s : Session} (e : IoError), P s → P (s.endWith (.error (.accept e)))
  meet : ∀ {s : Session} (peer : SocketAddress), P s →
    P { s with peer := some peer, sockets := s.sockets ++ [Socket.connection] }
  count : ∀ {s : Session} (ordinal : UInt32), P s → P { s with ordinal }

namespace Steady

variable {P : Session → Prop} {s : Session} (steady : Steady P)
include steady

theorem observe (r : Read) (before : P s) : P (s.observe r) := by
  have told : P (s.told r) :=
    steady.note (s.elsewhere_cause r) (steady.count (s.ordinalAfter r) before)
  rw [observe_eq_apply]
  exact steady.apply r.event told

theorem follow (reads : List Read) (before : P s) : P (s.follow reads) := by
  induction reads generalizing s with
  | nil =>
    unfold Session.follow
    split
    · exact steady.close before
    · exact before
  | cons r reads ih =>
    unfold Session.follow
    split
    · exact before
    · split
      · exact steady.close before
      · exact ih (steady.observe r before)

theorem connect (peer : SocketAddress) (before : P s) : P (s.connect peer) := by
  have accepted := steady.apply .accepted (steady.meet peer before)
  unfold Session.connect
  dsimp only
  split
  · exact accepted
  · exact steady.note (elsewhere_record (by decide) (peerField_unnamed _)) accepted

theorem await (wait : Wait) (before : P s) : P (s.await wait) := by
  cases wait with
  | cancelled | elapsed =>
    refine steady.close (steady.apply _ (steady.note ?_ before))
    exact elsewhere_record (by decide) (by simp)
  | failed e => exact steady.fail e (steady.note (elsewhere_record (by decide) (by simp)) before)
  | connected peer => exact steady.connect peer before

theorem kept : Kept P where
  run := fun wait reads before => steady.follow reads (steady.await wait before)
  follow := fun reads before => steady.follow reads before
  noted := fun _ before => steady.note (elsewhere_record (by decide) (by simp)) before

end Steady

/-- Nothing that a session has logged is of the loader. -/
def Discreet (s : Session) : Prop := ∀ r ∈ s.log, Elsewhere r

theorem Discreet.note {s : Session} {r : Record} (elsewhere : Elsewhere r)
    (discreet : s.Discreet) : (s.note r).Discreet :=
  List.forall_mem_append.mpr ⟨discreet, List.forall_mem_singleton.mpr elsewhere⟩

theorem steady_discreet : Steady Discreet where
  note := Discreet.note
  apply := by
    intro s e discreet
    unfold Session.apply
    split
    · exact discreet
    · exact discreet.note (elsewhere_record (by decide) (by simp))
  close := by
    intro s discreet
    unfold Session.close
    split
    · exact discreet
    · split
      · exact discreet
      · exact discreet.note (elsewhere_record (by decide) (by simp))
  fail := fun _ discreet => discreet
  meet := fun _ discreet => discreet
  count := fun _ discreet => discreet

theorem discreet_fresh (config : Config) (address : SocketAddress) :
    (fresh config address).Discreet :=
  elsewhere_singleton (by decide) (by simp)

end Session

end Listener

/-! ## Dispatches -/

theorem Dispatch.elsewhere_dispatch (n : Network) (config : Config) (network : String)
    (hostIds : List String) : ∀ r ∈ (dispatch n config network hostIds).log, Elsewhere r := by
  have attempted : ∀ address result, Elsewhere (attemptRecord address result) := by
    intro address result
    cases result <;> exact elsewhere_record (by decide) (by simp)
  unfold dispatch
  dsimp only
  split
  · exact elsewhere_singleton (by decide) (by simp)
  · have opening (workers : Nat) : Elsewhere (openingRecord config workers) :=
      elsewhere_record (by decide) (by simp)
    split
    · exact List.forall_mem_singleton.mpr (opening _)
    · refine List.forall_mem_cons.mpr ⟨opening _, List.forall_mem_append.mpr ⟨?_, ?_⟩⟩
      · intro r told
        obtain ⟨o, -, rfl⟩ := List.mem_map.mp told
        exact attempted _ _
      · exact elsewhere_singleton (by decide) (by simp)

namespace Program

open CommandLine

/-! ## Commands -/

theorem elsewhere_outcomeRecord (o : Listener.Outcome) : Elsewhere (outcomeRecord o) := by
  cases o <;> exact elsewhere_record (by decide) (by simp [codeField])

theorem elsewhere_listenConduct {session : Except Listener.Error Listener.Session}
    (discreet : ∀ s, session = .ok s → s.Discreet) :
    ∀ r ∈ (listenConduct session).records, Elsewhere r := by
  cases session with
  | error e => exact elsewhere_singleton (by decide) (by simp)
  | ok s =>
    have discreet := discreet s rfl
    unfold listenConduct
    dsimp only
    split
    · exact discreet
    · rename_i ending _
      refine List.forall_mem_append.mpr ⟨discreet, List.forall_mem_singleton.mpr ?_⟩
      cases ending with
      | ok o => exact elsewhere_outcomeRecord o
      | error e => exact elsewhere_record (by decide) (by simp)

theorem elsewhere_listen {h : Host} {log : Setup} {config : Listener.Config}
    {script : List Step} {c : Conduct} (listened : listen h log config script = .ok c) :
    ∀ r ∈ c.records, Elsewhere r := by
  unfold listen at listened
  split at listened
  · cases listened
    apply elsewhere_listenConduct
    intro s failed
    cases failed
  · rename_i session bound
    have discreet : session.Discreet := by
      cases binding : h.bind config.address with
      | listening address =>
        rw [binding, Listener.Session.bind_fresh] at bound
        cases bound
        exact Listener.Session.discreet_fresh config address
      | refused e => rw [binding] at bound; cases bound
      | setupFailed e => rw [binding] at bound; cases bound
    split at listened
    · cases listened
    · split at listened <;> cases listened
      rename_i t attended
      apply elsewhere_listenConduct
      intro s ended
      cases ended
      have kept := Listener.Session.steady_discreet.kept
      exact kept.finish (kept.attend discreet attended)

theorem elsewhere_dispatchEnd (report : Dispatch.Report) :
    ∀ r ∈ (dispatchEnd report).1, Elsewhere r := by
  unfold dispatchEnd
  split
  · exact elsewhere_singleton (by decide) (by simp)
  · refine List.forall_mem_append.mpr ⟨?_, elsewhere_singleton (by decide) (by simp)⟩
    intro r told
    obtain ⟨o, -, missed⟩ := List.mem_filterMap.mp told
    unfold missedRecord? at missed
    split at missed <;> cases missed
    exact elsewhere_record (by decide) (by simp)

theorem elsewhere_dispatch (h : Host) (config : Dispatch.Config) (request : DispatchRequest) :
    ∀ r ∈ (dispatch h config request).records, Elsewhere r := by
  unfold dispatch
  dsimp only
  split
  · exact elsewhere_singleton (by decide) (by simp)
  · have log := Dispatch.elsewhere_dispatch h.network config request.network
      (hostIds request.hostIds)
    unfold dispatchConduct
    split
    · exact log
    · exact List.forall_mem_append.mpr ⟨log, elsewhere_dispatchEnd _⟩

theorem elsewhere_conduct {h : Host} {r : Ready} {script : List Step} {c : Conduct}
    (conducted : conduct h r script = .ok c) : ∀ record ∈ c.records, Elsewhere record := by
  unfold conduct at conducted
  split at conducted
  · split at conducted
    · cases conducted
      exact elsewhere_singleton (by decide) (by simp)
    · exact elsewhere_listen conducted
  · cases conducted
    exact elsewhere_dispatch h _ _

/-! ## Runs -/

theorem elsewhere_opening {i : Invocation} {home : Option Path} {file : Path → FileState}
    {lookup : Lookup} {r : Ready} (prepared : prepare i home file lookup = .ok r) :
    ∀ record ∈ r.opening, Elsewhere record := by
  unfold prepare at prepared
  dsimp only at prepared
  split at prepared
  · cases prepared
  · unfold ready at prepared
    split at prepared <;> cases prepared
    intro record told
    obtain ⟨entry, -, rfl⟩ := List.mem_map.mp told
    exact elsewhere_record (by decide) (by simp)

/-- No record that a run shows is of the loader. -/
theorem elsewhere_run {h : Host} {words : List String} {script : List Step} {exit : Exit}
    (ran : run h words script = .ok exit) : ∀ record ∈ exit.records, Elsewhere record := by
  unfold run at ran
  split at ran
  · cases ran
    exact List.forall_mem_nil _
  · split at ran
    · cases ran
      exact List.forall_mem_nil _
    · rename_i i _ r prepared
      cases conducted : conduct h r script with
      | error e => rw [conducted] at ran; cases ran
      | ok c =>
        rw [conducted] at ran
        cases ran
        intro record shown
        rcases List.mem_append.mp (List.mem_filter.mp shown).1 with first | later
        · exact elsewhere_opening prepared record first
        · exact elsewhere_conduct conducted record later

end Program

end StartSignal
