/-
# StartSignal.Proofs.Dispatch.Outcomes -- what is to be reported of each worker

Every host id is to be reported with what came of its own attempt (`expected`).  The
dispatcher that makes one attempt after the other does so (`dispatch_expected`).

Whatever the network does, a delivery that fails blames the host of the worker it was for
(`deliver_names`), and so does a task that panics (`Ending.result_names`).
-/
import StartSignal.Dispatch.Schedule

namespace StartSignal.Dispatch

/-! ## Hosts that are named -/

def Error.host? : Error → Option String
  | .resolve host _ => some host
  | .unresolvable host => some host
  | .connect host _ => some host
  | .connectTimeout host _ => some host
  | .send host _ => some host
  | .task host _ => some host
  | .incomplete _ => none

theorem target_names {n : Network} {host : String} {port : UInt16} {e : Error}
    (failed : target n host port = .error e) : e.host? = some host := by
  unfold target at failed
  split at failed
  · cases failed
    rfl
  · split at failed
    · cases failed
      rfl
    · cases failed

theorem deliver_names {n : Network} {config : Config} {address : WorkerAddress} {e : Error}
    (failed : (deliver n config address).result = .error e) : e.host? = some address.host := by
  cases found : target n address.host config.port with
  | error e' =>
    simp only [deliver, found] at failed
    cases failed
    exact target_names found
  | ok socket =>
    cases answer : n.answer socket with
    | failed source =>
      simp only [deliver, found, answer] at failed
      cases failed
      rfl
    | silent =>
      cases timeout : config.connectTimeout <;>
        simp only [deliver, found, answer, timeout] at failed <;> cases failed <;> rfl
    | established sink =>
      rcases sent : sink.send Message.start.text with ⟨_ | _, sink'⟩
      · simp only [deliver, found, answer, sent] at failed
        cases failed
        rfl
      · simp only [deliver, found, answer, sent] at failed
        cases failed

/-- So does a task that ends in an error, if its result is that of a delivery. -/
theorem Ending.result_names {config : Config} {address : WorkerAddress} {ending : Ending}
    (delivered : ∀ result, ending = .returned result →
      ∃ n, result = (deliver n config address).result)
    {e : Error} (failed : ending.result address = .error e) : e.host? = some address.host := by
  cases ending with
  | returned result =>
    obtain ⟨n, rfl⟩ := delivered result rfl
    exact deliver_names failed
  | panicked reason =>
    cases failed
    rfl

/-! ## One outcome for each host id -/

def expected (attempt : Nat → Ending) (addresses : List WorkerAddress) : List Outcome :=
  addresses.mapIdx fun i address => ⟨address, (attempt i).result address⟩

variable {attempt : Nat → Ending}

theorem getElem?_expected (attempt : Nat → Ending) (addresses : List WorkerAddress) (i : Nat) :
    (expected attempt addresses)[i]? =
      addresses[i]?.map fun address => ⟨address, (attempt i).result address⟩ := by
  simp [expected]

theorem expected_forHosts (attempt : Nat → Ending) (network : String) (hostIds : List String) :
    expected attempt (WorkerAddress.forHosts network hostIds) =
      hostIds.mapIdx fun i id => ⟨⟨network, id⟩, (attempt i).result ⟨network, id⟩⟩ := by
  apply List.ext_getElem?
  intro i
  simp [getElem?_expected, WorkerAddress.forHosts, Function.comp_def]

section Deliveries

variable {n : Network} {config : Config} {network : String} {hostIds : List String}
  (delivered : ∀ i id, hostIds[i]? = some id →
    attempt i = .returned (deliver n config ⟨network, id⟩).result)
include delivered

theorem outcomes_expected :
    outcomes (WorkerAddress.forHosts network hostIds)
        ((WorkerAddress.forHosts network hostIds).map (deliver n config)) =
      expected attempt (WorkerAddress.forHosts network hostIds) := by
  apply List.ext_getElem?
  intro i
  rw [getElem?_expected]
  cases here : hostIds[i]? with
  | none => simp [outcomes, WorkerAddress.forHosts, here]
  | some id => simp [outcomes, WorkerAddress.forHosts, here, delivered i id here, Ending.result]

/-- The attempts of a dispatcher that makes one after the other come to what is expected
of the same attempts in any order. -/
theorem dispatch_expected (held : config.concurrency ≤ maxPermits) :
    (dispatch n config network hostIds).report =
      some ⟨expected attempt (WorkerAddress.forHosts network hostIds)⟩ := by
  rw [← outcomes_expected delivered]
  cases hostIds with
  | nil => rfl
  | cons id ids =>
    have within : ¬ maxPermits < config.concurrency := Nat.not_lt.mpr held
    unfold dispatch
    simp only [within]
    rfl

end Deliveries

end StartSignal.Dispatch
