/-
# StartSignal.Proofs.Worker.Host -- which addresses have the same host

The network and the host id of a worker are any texts, and either may have points in it, so
that the point between them cannot be told from the others.  Two addresses have the same host
exactly if they are one address or the point has slid along the host (`Slides`): what stands
between its two places ends the network of the one address and begins the host id of the
other (`host_eq_iff`).

Where the point has slid, the network has grown longer.  Two addresses with the same host are
thus one address as soon as their networks are of one length (`eq_of_host_eq`).  In one network
the host tells the host id, so the hosts of a fleet are distinct exactly if its host ids are
(`nodup_hosts_iff`).

Main result: `host_tells`.
-/
import Mathlib.Data.List.Nodup
import StartSignal.Proofs.Text.Split
import StartSignal.Worker

namespace StartSignal.WorkerAddress

open Text

/-- The address `b` is `a` with the parts divided at a later point of the host: what stands up
to there has gone over from the host id to the network. -/
def Slides (a b : WorkerAddress) : Prop :=
  ∃ middle : String,
    b.network = a.network ++ "." ++ middle ∧ a.hostId = middle ++ "." ++ b.hostId

variable {a b : WorkerAddress}

theorem eq_iff_toList : a = b ↔
    a.network.toList = b.network.toList ∧ a.hostId.toList = b.hostId.toList := by
  cases a
  cases b
  simp [String.toList_inj]

theorem slides_iff_toList : a.Slides b ↔ ∃ middle : List Char,
    b.network.toList = a.network.toList ++ delimiter :: middle ∧
      a.hostId.toList = middle ++ delimiter :: b.hostId.toList := by
  have text : ∀ middle : String,
      (b.network = a.network ++ "." ++ middle ∧ a.hostId = middle ++ "." ++ b.hostId) ↔
        (b.network.toList = a.network.toList ++ delimiter :: middle.toList ∧
          a.hostId.toList = middle.toList ++ delimiter :: b.hostId.toList) := by
    intro middle
    simp [← String.toList_inj, delimiter]
  constructor
  · rintro ⟨middle, slid⟩
    exact ⟨middle.toList, (text middle).mp slid⟩
  · rintro ⟨middle, slid⟩
    refine ⟨String.ofList middle, (text _).mpr ?_⟩
    rwa [String.toList_ofList]

theorem host_eq_iff : a.host = b.host ↔ a = b ∨ a.Slides b ∨ b.Slides a := by
  rw [host, host, String.ofList_inj, hostChars, hostChars, append_sep_inj_iff, eq_iff_toList,
    slides_iff_toList, slides_iff_toList]

theorem Slides.length_lt (slides : a.Slides b) : a.network.length < b.network.length := by
  obtain ⟨middle, network, -⟩ := slides
  rw [network, String.length_append, String.length_append]
  have point : ".".length = 1 := by decide
  omega

theorem eq_of_host_eq (same : a.host = b.host)
    (level : a.network.length = b.network.length) : a = b := by
  rcases host_eq_iff.mp same with equal | forward | backward
  · exact equal
  · exact absurd level (Nat.ne_of_lt forward.length_lt)
  · exact absurd level.symm (Nat.ne_of_lt backward.length_lt)

/-! ## One network -/

theorem host_injective (network : String) :
    Function.Injective fun id => host ⟨network, id⟩ := by
  intro id id' same
  have address : (⟨network, id⟩ : WorkerAddress) = ⟨network, id'⟩ := eq_of_host_eq same rfl
  exact congrArg hostId address

theorem nodup_hosts_iff (network : String) (ids : List String) :
    ((forHosts network ids).map host).Nodup ↔ ids.Nodup := by
  rw [forHosts, List.map_map]
  exact List.nodup_map_iff (host_injective network)

/-! ## Main result -/

/-- What the host of an address tells of it. -/
structure HostTells (a : WorkerAddress) : Prop where
  /-- The addresses with this host are the address itself, those that the point slides on to and
  those that it has slid from. -/
  slid : ∀ b : WorkerAddress, a.host = b.host ↔ a = b ∨ a.Slides b ∨ b.Slides a
  /-- Within the network it tells the host id. -/
  hostId : Function.Injective fun id => host ⟨a.network, id⟩
  /-- The hosts of a fleet in the network are distinct if its host ids are, and only then. -/
  distinct : ∀ ids, ((forHosts a.network ids).map host).Nodup ↔ ids.Nodup

/-- **A host tells its address up to sliding the point.**  Within one network it tells the
address. -/
theorem host_tells (a : WorkerAddress) : HostTells a := by
  constructor
  case slid => exact fun b => host_eq_iff
  case hostId => exact host_injective a.network
  case distinct => exact nodup_hosts_iff a.network

/-- Three points, and three addresses with the host. -/
example :
    host ⟨"10", "0.1.5"⟩ = host ⟨"10.0", "1.5"⟩ ∧ host ⟨"10.0", "1.5"⟩ = host ⟨"10.0.1", "5"⟩ := by
  decide

end StartSignal.WorkerAddress
