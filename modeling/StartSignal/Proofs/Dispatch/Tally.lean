/-
# StartSignal.Proofs.Dispatch.Tally -- the two halves of a report

A report parts its outcomes into deliveries and failures, and neither half is disturbed in its
order.  So the outcomes are the two halves put together again (`Interleaved`), and they can be
parted so in one way only (`Interleaved.eq_filter`).

The failures are counted by a difference: what is left of all outcomes without the deliveries.
It is the length of the one half, because the halves make up the whole.

Main result: `halves_tally`.
-/
import StartSignal.Dispatch.Error
import StartSignal.Proofs.Interleaved

namespace StartSignal

namespace Dispatch

/-! ## Counts -/

theorem OutcomeOf.isSent_iff {ε : Type} (o : OutcomeOf ε) :
    o.isSent = true ↔ ∃ target, o.result = .ok target := by
  unfold isSent
  cases o.result <;> simp

theorem OutcomeOf.not_isSent_iff {ε : Type} (o : OutcomeOf ε) :
    o.isSent = false ↔ ∃ e, o.result = .error e := by
  unfold isSent
  cases o.result <;> simp

namespace ReportOf

variable {ε : Type} (r : ReportOf ε)

def deliveries (r : ReportOf ε) : List (OutcomeOf ε) := r.outcomes.filter OutcomeOf.isSent

theorem sent_eq : r.sent = r.deliveries.map OutcomeOf.address := rfl

theorem interleaved : Interleaved r.deliveries r.failures r.outcomes :=
  .filter_filter OutcomeOf.isSent r.outcomes

theorem length_deliveries : r.deliveries.length = r.succeeded := rfl

theorem succeeded_le_length : r.succeeded ≤ r.length := List.length_filter_le _ _

theorem length_failures : r.failures.length = r.failed := by
  have whole : r.succeeded + r.failures.length = r.length := r.interleaved.length_add
  show r.failures.length = r.length - r.succeeded
  omega

theorem isSuccess_iff_failures : r.isSuccess = true ↔ r.failures = [] := by
  rw [isSuccess, decide_eq_true_iff, ← length_failures, List.length_eq_zero_iff]

end ReportOf

/-! ## Main result -/

/-- What the parts of a report tell of the whole. -/
structure Tallied (r : Report) : Prop where
  /-- The difference that counts the failures does not go below zero. -/
  within : r.succeeded ≤ r.length
  failed : r.failed = r.failures.length
  succeeded : r.succeeded = r.sent.length
  total : r.succeeded + r.failed = r.length
  /-- The deliveries, of which the addresses are told, and the failures are put together to the
  outcomes, and no other deliveries and failures are. -/
  parted : ∃ deliveries, deliveries.map OutcomeOf.address = r.sent ∧
    ∀ ds fs : List Outcome,
      (Interleaved ds fs r.outcomes ∧ (∀ o ∈ ds, ∃ target, o.result = .ok target) ∧
        ∀ o ∈ fs, ∃ e, o.result = .error e) ↔
      ds = deliveries ∧ fs = r.failures
  success : r.isSuccess = true ↔ r.failures = []
  /-- A success is the report itself. -/
  whole : ∀ r', r.result = .ok r' ↔ r' = r ∧ r.isSuccess = true
  /-- A failure carries the report as it is. -/
  carried : ∀ e, r.result = .error e ↔ e = .incomplete r ∧ r.isSuccess = false
  message : (Error.incomplete r).message =
    "start signal not delivered to " ++ Text.natText r.failures.length ++ " of " ++
      Text.natText r.outcomes.length ++ " workers"

/-- **A report is its deliveries and its failures.**  The counts are the lengths of the two, the
outcomes are the two in their order, and what becomes of the report depends on whether there are
failures: whatever the failures are, also if they carry reports of their own. -/
theorem halves_tally (r : Report) : Tallied r := by
  constructor
  case within => exact r.succeeded_le_length
  case failed => exact r.length_failures.symm
  case succeeded => rw [r.sent_eq, List.length_map, r.length_deliveries]
  case total => exact Nat.add_sub_cancel' r.succeeded_le_length
  case parted =>
    refine ⟨r.deliveries, r.sent_eq.symm, fun ds fs => ?_⟩
    simp only [← OutcomeOf.isSent_iff, ← OutcomeOf.not_isSent_iff]
    constructor
    · rintro ⟨together, sent, missed⟩
      exact together.eq_filter sent missed
    · rintro ⟨rfl, rfl⟩
      refine ⟨r.interleaved, fun o member => (List.mem_filter.mp member).2, fun o member => ?_⟩
      simpa using (List.mem_filter.mp member).2
  case success => exact r.isSuccess_iff_failures
  case whole =>
    intro r'
    unfold ReportOf.result
    cases success : r.isSuccess <;> simp [eq_comm]
  case carried =>
    intro e
    unfold ReportOf.result
    cases success : r.isSuccess <;> simp [eq_comm]
  case message =>
    rw [r.length_failures]
    rfl

/-- A delivery between two failures, the later of which is a dispatch of its own that failed. -/
example :
    let nested : Report := ⟨[⟨⟨"10.1", "1"⟩, .error (.unresolvable "10.1.1")⟩]⟩
    let r : Report := ⟨[⟨⟨"10", "1"⟩, .error (.unresolvable "10.1")⟩,
      ⟨⟨"10", "2"⟩, .ok ⟨.v4 ⟨10, 0, 0, 2⟩, 50000, 0⟩⟩,
      ⟨⟨"10", "3"⟩, .error (.incomplete nested)⟩]⟩
    r.succeeded = 1 ∧ r.failed = 2 ∧ r.sent = [⟨"10", "2"⟩] ∧ r.isSuccess = false := by
  decide

end Dispatch

end StartSignal
