/-
# StartSignal.Proofs.Dispatch.Conservation -- what is received is what was delivered

A network of which some addresses accept and some stay silent (`Network.naming`) decides
each delivery by the address that its host reaches (`Reaches`): if it accepts, the connection
carries the start token and nothing else, and otherwise there is no connection and the delivery
fails (`transmission_deliver`, `result_deliver`).  So the
connections of a dispatch are its `contacts`, one for each delivery that succeeds, whatever
the order of its attempts; counted by address they are what each address receives, and
counted all together they are what the report counts (`Account`).

Main result: `deliveries_conserved`.
-/
import Mathlib.Algebra.Order.BigOperators.Group.Multiset
import Mathlib.Algebra.BigOperators.Group.Finset.Basic
import StartSignal.Proofs.Dispatch.Independence
import StartSignal.Proofs.Dispatch.Target
import StartSignal.Proofs.Text.Utf8
import StartSignal.Proofs.Wire.Sending

namespace StartSignal

/-- The addresses of a host, some of which accept and some of which stay silent, and what is
known about names. -/
def Network.naming (up silent : List IpAddress)
    (lookup : String → Except IoError (List IpAddress)) : Network :=
  { Network.loopback up silent with lookup }

/-- A sink that takes everything takes a text as it is. -/
theorem Wire.Sink.send_unlimited (text : String) :
    ∃ after, unlimited.send text = (.ok (), after) ∧ after.written = Text.Utf8.bytes text := by
  have whole : (pour [] (Text.Utf8.bytes text)).failure = none := by
    cases Text.Utf8.bytes text <;> rfl
  have sent := send_flush (s := unlimited) whole
  exact ⟨_, sent, written_of_send sent⟩

namespace Dispatch

/-! ## One delivery -/

/-- The host of a worker leads to an address, or to one that maps it. -/
def Reaches (n : Network) (config : Config) (address : WorkerAddress) (ip : IpAddress) : Prop :=
  ∃ a, Leads n address.host config.port a ∧ a.ip.reached = ip

/-- The address that the host of a worker reaches. -/
def destination? (n : Network) (config : Config) (address : WorkerAddress) : Option IpAddress :=
  match target n address.host config.port with
  | .ok a => some a.ip.reached
  | .error _ => none

theorem destination?_eq_some_iff {n : Network} {config : Config} {address : WorkerAddress}
    {ip : IpAddress} : destination? n config address = some ip ↔ Reaches n config address ip := by
  unfold destination? Reaches
  simp only [← target_eq_ok_iff]
  cases target n address.host config.port <;> simp

instance (n : Network) (config : Config) (address : WorkerAddress) (ip : IpAddress) :
    Decidable (Reaches n config address ip) :=
  decidable_of_iff _ destination?_eq_some_iff

/-- The address that accepts a delivery, if one does. -/
def contact? (n : Network) (up : List IpAddress) (config : Config) (address : WorkerAddress) :
    Option IpAddress :=
  (destination? n config address).filter (· ∈ up)

/-- What is to come of a worker if the addresses `up` accept and the addresses `silent` say
nothing. -/
structure Fate (n : Network) (up silent : List IpAddress) (config : Config)
    (address : WorkerAddress) (result : Except Error SocketAddress) : Prop where
  /-- A host that leads to an address that accepts is delivered to. -/
  delivered : ∀ a, Leads n address.host config.port a → a.ip.reached ∈ up → result = .ok a
  /-- A host that reaches no such address is not. -/
  undelivered : (∀ ip ∈ up, ¬ Reaches n config address ip) → ∃ e, result = .error e
  /-- A host with a NUL is not even looked up. -/
  nul : '\x00' ∈ address.host.toList → result = .error (.resolve address.host .nulInName)
  /-- A host that leads nowhere fails with the reason. -/
  strayed : ∀ e, Strays n address.host e → result = .error e
  /-- An address that neither accepts nor stays silent refuses. -/
  refused : ∀ a, Leads n address.host config.port a → a.ip.reached ∉ up →
    a.ip.reached ∉ silent → result = .error (.connect address.host .connectionRefused)
  /-- An address that stays silent costs the time that an attempt may take. -/
  stuck : ∀ a timeout, Leads n address.host config.port a → a.ip.reached ∉ up →
    a.ip.reached ∈ silent → config.connectTimeout = some timeout →
    result = .error (.connectTimeout address.host timeout)

section Delivery

variable {up silent : List IpAddress} {lookup : String → Except IoError (List IpAddress)}
  {config : Config} {address : WorkerAddress}

theorem deliver_unresolved {n : Network} {e : Error}
    (leads : target n address.host config.port = .error e) :
    deliver n config address = ⟨.error e, none⟩ := by
  unfold deliver
  dsimp only
  rw [leads]

theorem deliver_up {a : SocketAddress}
    (leads : target (.naming up silent lookup) address.host config.port = .ok a)
    (accepts : a.ip.reached ∈ up) :
    deliver (.naming up silent lookup) config address =
      ⟨.ok a, some (a.ip.reached, Text.Utf8.bytes startToken)⟩ := by
  obtain ⟨after, sent, written⟩ := Wire.Sink.send_unlimited startToken
  have answer : (Network.naming up silent lookup).answer a = .established .unlimited :=
    if_pos accepts
  simp only [deliver, leads, answer, Message.text, sent, written]

theorem deliver_silent {a : SocketAddress}
    (leads : target (.naming up silent lookup) address.host config.port = .ok a)
    (rejects : a.ip.reached ∉ up) (quiet : a.ip.reached ∈ silent) :
    deliver (.naming up silent lookup) config address =
      ⟨.error (match config.connectTimeout with
        | some timeout => .connectTimeout address.host timeout
        | none => .connect address.host systemTimeout), none⟩ := by
  have answer : (Network.naming up silent lookup).answer a = .silent :=
    (if_neg rejects).trans (if_pos quiet)
  simp only [deliver, leads, answer]
  cases config.connectTimeout <;> rfl

theorem deliver_refused {a : SocketAddress}
    (leads : target (.naming up silent lookup) address.host config.port = .ok a)
    (rejects : a.ip.reached ∉ up) (answers : a.ip.reached ∉ silent) :
    deliver (.naming up silent lookup) config address =
      ⟨.error (.connect address.host .connectionRefused), none⟩ := by
  have answer : (Network.naming up silent lookup).answer a = .failed .connectionRefused :=
    (if_neg rejects).trans (if_neg answers)
  simp only [deliver, leads, answer]

/-- A delivery in full: either it is accepted, or it fails without a connection. -/
theorem deliver_cases (up silent : List IpAddress)
    (lookup : String → Except IoError (List IpAddress)) (config : Config)
    (address : WorkerAddress) :
    (∃ a, target (.naming up silent lookup) address.host config.port = .ok a ∧
        a.ip.reached ∈ up ∧
        deliver (.naming up silent lookup) config address =
          ⟨.ok a, some (a.ip.reached, Text.Utf8.bytes startToken)⟩) ∨
      contact? (.naming up silent lookup) up config address = none ∧
        ∃ e, deliver (.naming up silent lookup) config address = ⟨.error e, none⟩ := by
  cases leads : target (.naming up silent lookup) address.host config.port with
  | error e =>
    refine .inr ⟨?_, e, deliver_unresolved leads⟩
    simp only [contact?, destination?, leads, Option.filter_none]
  | ok a =>
    by_cases accepts : a.ip.reached ∈ up
    · exact .inl ⟨a, rfl, accepts, deliver_up leads accepts⟩
    · have nobody : contact? (.naming up silent lookup) up config address = none := by
        simp [contact?, destination?, leads, accepts]
      by_cases quiet : a.ip.reached ∈ silent
      · exact .inr ⟨nobody, _, deliver_silent leads accepts quiet⟩
      · exact .inr ⟨nobody, _, deliver_refused leads accepts quiet⟩

/-- Where the host of a worker leads if the address there accepts. -/
theorem contact?_of_target {n : Network} {a : SocketAddress}
    (leads : target n address.host config.port = .ok a) (accepts : a.ip.reached ∈ up) :
    contact? n up config address = some a.ip.reached := by
  simp [contact?, destination?, leads, accepts]

/-- A connection is made to the address that accepts, and carries the start token. -/
theorem transmission_deliver (up silent : List IpAddress)
    (lookup : String → Except IoError (List IpAddress)) (config : Config)
    (address : WorkerAddress) :
    (deliver (.naming up silent lookup) config address).transmission =
      (contact? (.naming up silent lookup) up config address).map
        (·, Text.Utf8.bytes startToken) := by
  rcases deliver_cases up silent lookup config address with
    ⟨a, leads, accepts, delivered⟩ | ⟨nobody, e, failed⟩
  · rw [delivered, contact?_of_target leads accepts]
    rfl
  · rw [failed, nobody]
    rfl

/-- A delivery succeeds if and only if an address accepts it. -/
theorem result_deliver (up silent : List IpAddress)
    (lookup : String → Except IoError (List IpAddress)) (config : Config) (network id : String) :
    (outcomeOf (.naming up silent lookup) config network id).isSent =
      (contact? (.naming up silent lookup) up config ⟨network, id⟩).isSome := by
  rcases deliver_cases up silent lookup config ⟨network, id⟩ with
    ⟨a, leads, accepts, delivered⟩ | ⟨nobody, e, failed⟩
  · rw [contact?_of_target leads accepts, outcomeOf, delivered]
    rfl
  · rw [nobody, outcomeOf, failed]
    rfl

/-- What comes of a worker is what is to come of it. -/
theorem fate_deliver (up silent : List IpAddress)
    (lookup : String → Except IoError (List IpAddress)) (config : Config)
    (address : WorkerAddress) :
    Fate (.naming up silent lookup) up silent config address
      (deliver (.naming up silent lookup) config address).result where
  delivered a leads accepts := by rw [deliver_up (target_eq_ok_iff.mpr leads) accepts]
  undelivered nowhere := by
    rcases deliver_cases up silent lookup config address with
      ⟨a, leads, accepts, -⟩ | ⟨-, e, failed⟩
    · exact absurd ⟨a, target_eq_ok_iff.mp leads, rfl⟩ (nowhere _ accepts)
    · exact ⟨e, by rw [failed]⟩
  nul holds := by rw [deliver_unresolved (target_of_nul holds)]
  strayed e strays := by rw [deliver_unresolved (target_eq_error_iff.mpr strays)]
  refused a leads rejects answers := by
    rw [deliver_refused (target_eq_ok_iff.mpr leads) rejects answers]
  stuck a timeout leads rejects quiet limit := by
    rw [deliver_silent (target_eq_ok_iff.mpr leads) rejects quiet, limit]

end Delivery

/-! ## Many deliveries -/

/-- The addresses that accept deliveries, one for each delivery that is accepted. -/
def contacts (n : Network) (up : List IpAddress) (config : Config)
    (addresses : List WorkerAddress) : List IpAddress :=
  addresses.filterMap (contact? n up config)

section Deliveries

variable {up silent : List IpAddress} {lookup : String → Except IoError (List IpAddress)}
  {config : Config} {network : String} {hostIds : List String}

theorem mem_up_of_mem_contacts {n : Network} {addresses : List WorkerAddress} {ip : IpAddress}
    (contacted : ip ∈ contacts n up config addresses) : ip ∈ up := by
  obtain ⟨address, -, accepted⟩ := List.mem_filterMap.mp contacted
  simpa using (Option.filter_eq_some_iff.mp accepted).2

/-- An address that accepts is contacted once for each host that reaches it. -/
theorem count_contacts {n : Network} {ip : IpAddress} (accepts : ip ∈ up) :
    (contacts n up config (WorkerAddress.forHosts network hostIds)).count ip =
      hostIds.countP fun id => Reaches n config ⟨network, id⟩ ip := by
  simp only [← destination?_eq_some_iff]
  rw [contacts, WorkerAddress.forHosts, List.count_filterMap, List.countP_map]
  refine congrArg (List.countP · hostIds) (funext fun id => ?_)
  cases leads : destination? n config ⟨network, id⟩ with
  | none => simp [contact?, leads]
  | some found =>
    by_cases same : found = ip
    · subst same
      simp [contact?, leads, accepts]
    · simp [contact?, leads, same]

theorem transmissions_deliver (up silent : List IpAddress)
    (lookup : String → Except IoError (List IpAddress)) (config : Config)
    (addresses : List WorkerAddress) :
    (addresses.map (deliver (.naming up silent lookup) config)).filterMap Attempt.transmission =
      (contacts (.naming up silent lookup) up config addresses).map
        (·, Text.Utf8.bytes startToken) := by
  rw [contacts, List.filterMap_map, List.map_filterMap]
  refine congrArg (List.filterMap · addresses) (funext fun address => ?_)
  exact transmission_deliver up silent lookup config address

/-- What an address receives is the start token, once for each time it is contacted. -/
theorem received_deliver (up silent : List IpAddress)
    (lookup : String → Except IoError (List IpAddress)) (config : Config)
    (addresses : List WorkerAddress) (ip : IpAddress) :
    received (addresses.map (deliver (.naming up silent lookup) config)) ip =
      List.replicate ((contacts (.naming up silent lookup) up config addresses).count ip)
        startToken := by
  rw [received, transmissions_deliver, List.filterMap_map]
  simp only [Function.comp_def, Text.Utf8.text_bytes]
  induction contacts (.naming up silent lookup) up config addresses with
  | nil => rfl
  | cons contact rest ih =>
    rw [List.filterMap_cons, List.count_cons, ih]
    by_cases same : contact = ip
    · simp [same, List.replicate_succ]
    · simp [same]

theorem succeeded_deliver (up silent : List IpAddress)
    (lookup : String → Except IoError (List IpAddress)) (config : Config) (network : String)
    (hostIds : List String) :
    ReportOf.succeeded ⟨hostIds.map (outcomeOf (.naming up silent lookup) config network)⟩ =
      (contacts (.naming up silent lookup) up config
        (WorkerAddress.forHosts network hostIds)).length := by
  rw [ReportOf.succeeded, ← List.countP_eq_length_filter, List.countP_map, contacts,
    WorkerAddress.forHosts, List.filterMap_map, List.length_filterMap_eq_countP]
  simp only [Function.comp_def, result_deliver]

/-- What the addresses have received, and what a report says of it. -/
structure Account (n : Network) (up silent : List IpAddress) (config : Config)
    (network : String) (hostIds : List String) (attempts : List Attempt) (r : Report) :
    Prop where
  /-- An address that accepts has received the start token once for each host id whose host
  reaches it. -/
  signalled : ∀ ip ∈ up, received attempts ip =
    List.replicate (hostIds.countP fun id => Reaches n config ⟨network, id⟩ ip) startToken
  /-- Nothing else has been written anywhere. -/
  carried : ∀ transmission ∈ attempts.filterMap Attempt.transmission,
    transmission.1 ∈ up ∧ transmission.2 = Text.Utf8.bytes startToken
  /-- As much has been received as has been reported delivered. -/
  total : ∑ ip ∈ up.toFinset, (received attempts ip).length = r.succeeded
  /-- The report has the workers in order. -/
  workers : r.outcomes.map OutcomeOf.address = WorkerAddress.forHosts network hostIds
  /-- It says of each what came of it. -/
  fates : ∀ o ∈ r.outcomes, Fate n up silent config o.address o.result

/-- Deliveries to the workers, in any order, leave accounts that agree. -/
theorem account_of_perm {addresses : List WorkerAddress}
    (all : addresses.Perm (WorkerAddress.forHosts network hostIds)) :
    Account (.naming up silent lookup) up silent config network hostIds
      (addresses.map (deliver (.naming up silent lookup) config))
      ⟨hostIds.map (outcomeOf (.naming up silent lookup) config network)⟩ := by
  have contacted : (contacts (.naming up silent lookup) up config addresses).Perm
      (contacts (.naming up silent lookup) up config
        (WorkerAddress.forHosts network hostIds)) := all.filterMap _
  constructor
  case signalled =>
    intro ip accepts
    rw [received_deliver, contacted.count_eq, count_contacts accepts]
  case carried =>
    intro transmission made
    rw [transmissions_deliver] at made
    obtain ⟨ip, contact, rfl⟩ := List.mem_map.mp made
    exact ⟨mem_up_of_mem_contacts contact, rfl⟩
  case total =>
    rw [succeeded_deliver, ← contacted.length_eq]
    simp only [received_deliver, List.length_replicate]
    have accepted : ∀ ip ∈ (contacts (.naming up silent lookup) up config addresses :
        Multiset IpAddress), ip ∈ up.toFinset := fun ip contact =>
      List.mem_toFinset.mpr (mem_up_of_mem_contacts contact)
    simpa only [Multiset.coe_count, Multiset.coe_card] using
      Multiset.sum_count_eq_card accepted
  case workers =>
    rw [List.map_map]
    rfl
  case fates =>
    intro o member
    obtain ⟨id, -, rfl⟩ := List.mem_map.mp member
    exact fate_deliver up silent lookup config ⟨network, id⟩

end Deliveries

/-! ## Main result -/

namespace Schedule

/-- The attempts that have been begun, each taken to its end, in the order in which they were
begun. -/
def attempts (n : Network) (config : Config) (s : Schedule) : List Attempt :=
  (s.begun.reverse.filterMap (s.addresses[·]?)).map (deliver n config)

variable {concurrency : Nat} {attempt : Nat → Ending} {addresses : List WorkerAddress}
  {s : Schedule} {r : Report}

/-- Once the dispatcher has returned, every worker has been delivered to once. -/
theorem Sound.workers_begun (sound : Sound concurrency attempt addresses s)
    (reported : s.report = some r) :
    (s.begun.reverse.filterMap (s.addresses[·]?)).Perm addresses := by
  have all := ((List.reverse_perm _).trans (sound.attempted reported)).filterMap
    (addresses[·]?)
  rw [filterMap_range_getElem?] at all
  rwa [sound.workers]

end Schedule

/-- What a dispatch does that makes one attempt after the other. -/
theorem dispatch_of_report {n : Network} {config : Config} {network : String}
    {hostIds : List String} {r : Report}
    (reported : (dispatch n config network hostIds).report = some r) :
    (dispatch n config network hostIds).attempts =
        (WorkerAddress.forHosts network hostIds).map (deliver n config) ∧
      r = ⟨hostIds.map (outcomeOf n config network)⟩ := by
  have each : outcomes (WorkerAddress.forHosts network hostIds)
      ((WorkerAddress.forHosts network hostIds).map (deliver n config)) =
        hostIds.map (outcomeOf n config network) := by
    rw [outcomes_expected (fun i id here => deliveries_eq here), expected_deliveries]
  rw [← each]
  revert reported
  unfold dispatch
  dsimp only
  split
  case isTrue nobody =>
    rw [List.isEmpty_iff.mp nobody]
    intro reported
    cases reported
    exact ⟨rfl, rfl⟩
  case isFalse =>
    split
    · intro reported
      cases reported
    · intro reported
      cases reported
      exact ⟨rfl, rfl⟩

/-- What a dispatch delivers if the addresses `up` accept and the addresses `silent` say
nothing. -/
structure Conserved (n : Network) (up silent : List IpAddress) (config : Config)
    (network : String) (hostIds : List String) : Prop where
  /-- The accounts agree if one attempt is made after the other. -/
  sequential : ∀ r, (dispatch n config network hostIds).report = some r →
    Account n up silent config network hostIds (dispatch n config network hostIds).attempts r
  /-- They agree in every order of the turns of the tasks. -/
  scheduled : ∀ s ms t r, Schedule.start? config network hostIds = some s →
    s.run? (deliveries n config network hostIds) ms = some t → t.report = some r →
    Account n up silent config network hostIds (t.attempts n config) r
  /-- There is a report, unless the limit on attempts cannot be held. -/
  reported : config.concurrency ≤ maxPermits →
    (∃ r, (dispatch n config network hostIds).report = some r) ∧
      ∃ r, MayReport n config network hostIds r

/-- **Start tokens are conserved.**  Every address that accepts receives one for each host id
that leads to it and nothing else, all of them together as many as are reported, and every other
host id has the failure that its host calls for, in every order of the attempts. -/
theorem deliveries_conserved (up silent : List IpAddress)
    (lookup : String → Except IoError (List IpAddress)) (config : Config) (network : String)
    (hostIds : List String) :
    Conserved (.naming up silent lookup) up silent config network hostIds := by
  constructor
  case sequential =>
    intro r reported
    obtain ⟨made, rfl⟩ := dispatch_of_report reported
    rw [made]
    exact account_of_perm (List.Perm.refl _)
  case scheduled =>
    intro s ms t r begins ran reported
    obtain ⟨sound, -⟩ := (Schedule.sound_of_start? _ begins).run ran
    rw [report_deliveries sound reported]
    exact account_of_perm (sound.workers_begun reported)
  case reported =>
    intro held
    exact ⟨⟨_, dispatch_expected (fun i id here => deliveries_eq here) held⟩,
      ⟨_, (mayReport_iff held).mpr rfl⟩⟩

/-- A network that knows one name, at an address of IPv6 and one of IPv4. -/
def aliasNetwork : Network :=
  .naming [.v4 ⟨127, 0, 0, 1⟩] [.v4 ⟨127, 0, 0, 2⟩] fun name =>
    if name = "::ffff:127.0.0.worker" then
      .ok [.v6 (Net.padGroups [] [1]), .v4 ⟨127, 0, 0, 1⟩]
    else .error .unknownName

def aliasConfig : Config := ⟨50000, 2, some (.ofSeconds 1)⟩

/-- The address `::ffff:127.0.0.x`. -/
def mapped (x : UInt16) : SocketAddress :=
  ⟨.v6 (Net.padGroups [] [0xffff, 0x7f00, x]), 50000, 0⟩

theorem leads_mapped (id : String) (x : UInt16)
    (found : (target aliasNetwork (WorkerAddress.host ⟨"::ffff:127.0.0", id⟩) 50000).toOption =
      some (mapped x)) :
    Leads aliasNetwork (WorkerAddress.host ⟨"::ffff:127.0.0", id⟩) 50000 (mapped x) := by
  rw [← target_eq_ok_iff]
  revert found
  cases target aliasNetwork (WorkerAddress.host ⟨"::ffff:127.0.0", id⟩) 50000 with
  | error e => nofun
  | ok a => exact fun found => congrArg Except.ok (Option.some.inj found)

/-- One worker is named three times, twice by an address that maps its own and once by a
name; of the other hosts one stays silent, one refuses, and one holds a NUL. -/
theorem deliveries_conserved_aliases :
    let run := dispatch aliasNetwork aliasConfig "::ffff:127.0.0"
      ["1", "2", "worker", "1", "3", "\x00"]
    ∃ r, run.report = some r ∧ r.succeeded = 3 ∧
      received run.attempts (.v4 ⟨127, 0, 0, 1⟩) = ["start", "start", "start"] ∧
      ∀ o ∈ r.outcomes,
        (o.address = ⟨"::ffff:127.0.0", "2"⟩ →
          o.result = .error (.connectTimeout "::ffff:127.0.0.2" (.ofSeconds 1))) ∧
        (o.address = ⟨"::ffff:127.0.0", "3"⟩ →
          o.result = .error (.connect "::ffff:127.0.0.3" .connectionRefused)) ∧
        (o.address = ⟨"::ffff:127.0.0", "\x00"⟩ →
          o.result = .error (.resolve "::ffff:127.0.0.\x00" .nulInName)) := by
  intro run
  have conserved := deliveries_conserved [.v4 ⟨127, 0, 0, 1⟩] [.v4 ⟨127, 0, 0, 2⟩]
    aliasNetwork.lookup aliasConfig "::ffff:127.0.0" ["1", "2", "worker", "1", "3", "\x00"]
  obtain ⟨⟨r, reported⟩, -⟩ := conserved.reported (by decide)
  have account := conserved.sequential r reported
  have three : received run.attempts (.v4 ⟨127, 0, 0, 1⟩) = ["start", "start", "start"] := by
    have signalled := account.signalled (.v4 ⟨127, 0, 0, 1⟩) (by simp)
    have count : (["1", "2", "worker", "1", "3", "\x00"].countP fun id =>
        Reaches aliasNetwork aliasConfig ⟨"::ffff:127.0.0", id⟩ (.v4 ⟨127, 0, 0, 1⟩)) = 3 := by
      decide +kernel
    exact signalled.trans (congrArg (List.replicate · startToken) count)
  refine ⟨r, reported, ?_, three, fun o member => ⟨?_, ?_, ?_⟩⟩
  · have total := account.total
    rw [List.toFinset_cons, List.toFinset_nil, insert_empty_eq, Finset.sum_singleton] at total
    exact total.symm.trans (congrArg List.length three)
  · intro same
    have fate := account.fates o member
    rw [same] at fate
    exact fate.stuck _ _ (leads_mapped "2" 2 (by decide +kernel)) (by decide) (by decide) rfl
  · intro same
    have fate := account.fates o member
    rw [same] at fate
    exact fate.refused _ (leads_mapped "3" 3 (by decide +kernel)) (by decide) (by decide)
  · intro same
    have fate := account.fates o member
    rw [same] at fate
    exact fate.nul (by decide)

end Dispatch

end StartSignal
