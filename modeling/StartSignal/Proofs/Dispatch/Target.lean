/-
# StartSignal.Proofs.Dispatch.Target -- where the host of a worker leads

A host without a NUL leads to the address that it writes by itself.  A name leads to one of
the addresses that are known of it: to the first of IPv4 if there is one, and else to the
first of all (`Leads`).  A host leads nowhere for one of four reasons, and each has an error of
its own (`Strays`).

Each host leads somewhere or has such a reason (`leads_or_strays`).  The dispatcher goes where
the host leads, and fails with the reason where it leads nowhere: `target_eq_ok_iff`,
`target_eq_error_iff`.
-/
import StartSignal.Dispatch.Delivery
import StartSignal.Proofs.Net.HostName

namespace StartSignal.Dispatch

/-- The address to use out of those of a name. -/
inductive Preferred (known : List IpAddress) : IpAddress → Prop where
  | v4 {before after : List IpAddress} {x : Ipv4} (here : known = before ++ .v4 x :: after)
    (first : ∀ y, .v4 y ∉ before) : Preferred known (.v4 x)
  | head {ip : IpAddress} {rest : List IpAddress} (here : known = ip :: rest)
    (no4 : ∀ y, .v4 y ∉ known) : Preferred known ip

/-- The socket address that a host leads to. -/
inductive Leads (n : Network) (host : String) (port : UInt16) : SocketAddress → Prop where
  | writes {a : SocketAddress} (free : '\x00' ∉ host.toList)
    (text : HostName.Writes host port a) : Leads n host port a
  | found {known : List IpAddress} {ip : IpAddress} (free : '\x00' ∉ host.toList)
    (name : HostName.IsName host) (answer : n.lookup host = .ok known)
    (preferred : Preferred known ip) : Leads n host port ⟨ip, port, 0⟩

/-- Why a host leads nowhere. -/
inductive Strays (n : Network) (host : String) : Error → Prop where
  | nul (holds : '\x00' ∈ host.toList) : Strays n host (.resolve host .nulInName)
  | misscoped (free : '\x00' ∉ host.toList) (bad : HostName.Misscoped host) :
    Strays n host (.resolve host .unknownName)
  | unknown {e : IoError} (free : '\x00' ∉ host.toList) (name : HostName.IsName host)
    (answer : n.lookup host = .error e) : Strays n host (.resolve host e)
  | nowhere (free : '\x00' ∉ host.toList) (name : HostName.IsName host)
    (answer : n.lookup host = .ok []) : Strays n host (.unresolvable host)

/-! ## The address to use -/

def isV4 : IpAddress → Bool
  | .v4 _ => true
  | .v6 _ => false

theorem isV4_iff {ip : IpAddress} : isV4 ip = true ↔ ∃ x, ip = .v4 x := by
  cases ip <;> simp [isV4]

theorem preferred?_map (known : List IpAddress) (port : UInt16) :
    preferred? (known.map fun ip => { ip, port }) =
      ((known.find? isV4).or known.head?).map fun ip => { ip, port } := by
  rw [preferred?, List.find?_map, List.head?_map, Option.map_or]
  refine congrArg (fun p => ((known.find? p).map _).or _) (funext fun ip => ?_)
  cases ip <;> rfl

theorem preferred?_singleton (a : SocketAddress) : preferred? [a] = some a := by
  obtain ⟨ip, port, scope⟩ := a
  cases ip <;> rfl

theorem find?_isV4_eq_some_iff {known : List IpAddress} {ip : IpAddress} :
    known.find? isV4 = some ip ↔ ∃ before x after, ip = .v4 x ∧
      known = before ++ .v4 x :: after ∧ ∀ y, .v4 y ∉ before := by
  rw [List.find?_eq_some_iff_append]
  constructor
  · rintro ⟨isFour, before, after, rfl, others⟩
    obtain ⟨x, rfl⟩ := isV4_iff.mp isFour
    refine ⟨before, x, after, rfl, rfl, fun y member => ?_⟩
    simpa [isV4] using others _ member
  · rintro ⟨before, x, after, rfl, rfl, no4⟩
    refine ⟨rfl, before, after, rfl, fun ip member => ?_⟩
    cases ip with
    | v4 y => exact absurd member (no4 y)
    | v6 y => rfl

theorem or_head?_eq_some_iff {known : List IpAddress} {ip : IpAddress} :
    (known.find? isV4).or known.head? = some ip ↔ Preferred known ip := by
  cases search : known.find? isV4 with
  | some first =>
    rw [Option.some_or, Option.some.injEq]
    constructor
    · rintro rfl
      obtain ⟨before, x, after, rfl, here, no4⟩ := find?_isV4_eq_some_iff.mp search
      exact .v4 here no4
    · intro preferred
      cases preferred with
      | v4 here no4 =>
        have again := find?_isV4_eq_some_iff.mpr ⟨_, _, _, rfl, here, no4⟩
        exact Option.some.inj (search.symm.trans again)
      | head _ no4 =>
        obtain ⟨before, x, after, rfl, here, -⟩ := find?_isV4_eq_some_iff.mp search
        exact absurd (here ▸ List.mem_append_right before List.mem_cons_self) (no4 x)
  | none =>
    have no4 : ∀ y, .v4 y ∉ known := by
      intro y member
      exact List.find?_eq_none.mp search _ member rfl
    rw [Option.none_or]
    constructor
    · intro head
      cases known with
      | nil => cases head
      | cons first rest =>
        cases head
        exact .head rfl no4
    · intro preferred
      cases preferred with
      | @v4 before after x here _ =>
        exact absurd (here ▸ List.mem_append_right before List.mem_cons_self) (no4 x)
      | head here _ =>
        rw [here]
        rfl

theorem or_head?_eq_none_iff {known : List IpAddress} :
    (known.find? isV4).or known.head? = none ↔ known = [] := by
  cases known <;> simp

/-! ## The host -/

variable {n : Network} {host : String} {port : UInt16} {a : SocketAddress}

theorem target_of_nul (holds : '\x00' ∈ host.toList) :
    target n host port = .error (.resolve host .nulInName) := by
  have refused : n.resolve host port = .error .nulInName := if_pos holds
  rw [target, refused]

theorem target_of_free (free : '\x00' ∉ host.toList) :
    target n host port = match HostName.address? host port with
      | some (.ok a) => .ok a
      | some (.error e) => .error (.resolve host e)
      | none => match n.lookup host with
        | .error e => .error (.resolve host e)
        | .ok known => match (known.find? isV4).or known.head? with
          | none => .error (.unresolvable host)
          | some ip => .ok { ip, port } := by
  unfold target Network.resolve
  rw [if_neg free]
  cases HostName.address? host port with
  | some found =>
    cases found with
    | error e => rfl
    | ok a => simp only [Except.map, preferred?_singleton]
  | none =>
    cases n.lookup host with
    | error e => rfl
    | ok known =>
      simp only [Except.map, preferred?_map]
      cases (known.find? isV4).or known.head? <;> rfl

theorem target_of_leads (leads : Leads n host port a) : target n host port = .ok a := by
  cases leads with
  | writes free text => rw [target_of_free free, HostName.address?_eq_ok_iff.mpr text]
  | found free name answer preferred =>
    rw [target_of_free free, HostName.address?_eq_none_iff.mpr name]
    simp only [answer, or_head?_eq_some_iff.mpr preferred]

theorem target_of_strays {e : Error} (strays : Strays n host e) :
    target n host port = .error e := by
  cases strays with
  | nul holds => exact target_of_nul holds
  | misscoped free bad =>
    rw [target_of_free free, HostName.address?_eq_error_iff.mpr ⟨rfl, bad⟩]
  | unknown free name answer =>
    rw [target_of_free free, HostName.address?_eq_none_iff.mpr name]
    simp only [answer]
  | nowhere free name answer =>
    rw [target_of_free free, HostName.address?_eq_none_iff.mpr name]
    simp only [answer]
    rfl

/-- A host leads somewhere, or there is a reason why it does not. -/
theorem leads_or_strays (n : Network) (host : String) (port : UInt16) :
    (∃ a, Leads n host port a) ∨ ∃ e, Strays n host e := by
  by_cases holds : '\x00' ∈ host.toList
  · exact .inr ⟨_, .nul holds⟩
  rcases HostName.writes_or host port with ⟨a, writes⟩ | misscoped | name
  · exact .inl ⟨a, .writes holds writes⟩
  · exact .inr ⟨_, .misscoped holds misscoped⟩
  cases answer : n.lookup host with
  | error e => exact .inr ⟨_, .unknown holds name answer⟩
  | ok known =>
    cases use : (known.find? isV4).or known.head? with
    | some ip => exact .inl ⟨_, .found holds name answer (or_head?_eq_some_iff.mp use)⟩
    | none =>
      cases or_head?_eq_none_iff.mp use
      exact .inr ⟨_, .nowhere holds name answer⟩

/-- The dispatcher goes where the host leads. -/
theorem target_eq_ok_iff : target n host port = .ok a ↔ Leads n host port a := by
  refine ⟨fun found => ?_, target_of_leads⟩
  rcases leads_or_strays n host port with ⟨b, leads⟩ | ⟨e, strays⟩
  · cases found.symm.trans (target_of_leads leads)
    exact leads
  · cases found.symm.trans (target_of_strays strays)

/-- It fails with the reason why the host leads nowhere. -/
theorem target_eq_error_iff {e : Error} : target n host port = .error e ↔ Strays n host e := by
  refine ⟨fun failed => ?_, target_of_strays⟩
  rcases leads_or_strays n host port with ⟨a, leads⟩ | ⟨e', strays⟩
  · cases failed.symm.trans (target_of_leads leads)
  · cases failed.symm.trans (target_of_strays strays)
    exact strays

end StartSignal.Dispatch
