/-
# StartSignal.Proofs.Net.HostName -- which host names are addresses

Besides the texts of addresses, a host name may write an IPv4 address in one to four parts
between points (`InParts`), each in hexadecimal, octal or decimal (`Part`), or an IPv6 address
with the number of a scope behind a percent sign (`Scoped`).  These are the host names that
stand for themselves (`address?_eq_ok_iff`); a scope that is no number makes a name that
nobody knows (`address?_eq_error_iff`), and all others are to be looked up
(`address?_eq_none_iff`).  There is no fourth kind (`writes_or`).

A text in parts is taken apart at its points.  That is unambiguous because no part has a
point in it (`Part.free`).
-/
import StartSignal.Net.HostName
import StartSignal.Proofs.Net.Literal
import StartSignal.Proofs.Text.Split

namespace StartSignal

/-- The number whose four octets an address has. -/
def Ipv4.number (x : Ipv4) : Nat :=
  ((x.a.toNat * 256 + x.b.toNat) * 256 + x.c.toNat) * 256 + x.d.toNat

namespace HostName

/-! ## Host names that are addresses -/

/-- Digits of a base that write a number. -/
def InBase (base : Nat) (cs : List Char) (n : Nat) : Prop :=
  ∃ ds : List Nat, ds ≠ [] ∧ (∀ d ∈ ds, d < base) ∧ cs.map Text.hexValue? = ds.map some ∧
    ds.foldl (fun n d => base * n + d) 0 = n

/-- One part of an address. -/
inductive Part : List Char → Nat → Prop where
  | hexadecimal {mark : Char} {cs : List Char} {n : Nat} (either : mark = 'x' ∨ mark = 'X')
    (digits : InBase 16 cs n) : Part ('0' :: mark :: cs) n
  | octal {cs : List Char} {n : Nat} (digits : InBase 8 ('0' :: cs) n) : Part ('0' :: cs) n
  | decimal {cs : List Char} {n : Nat} (first : ∀ rest, cs ≠ '0' :: rest)
    (digits : InBase 10 cs n) : Part cs n

/-- Parts that make a number in so many octets: an octet each, and the last what is left. -/
inductive Parts : Nat → List Char → Nat → Prop where
  | last {octets n : Nat} {cs : List Char} (part : Part cs n) (fits : n < 256 ^ (octets + 1)) :
    Parts (octets + 1) cs n
  | cons {octets n m : Nat} {cs ds : List Char} (part : Part cs n) (fits : n < 256)
    (rest : Parts octets ds m) : Parts (octets + 1) (cs ++ '.' :: ds) (n * 256 ^ octets + m)

/-- The text of an IPv4 address in one to four parts. -/
def InParts (cs : List Char) (x : Ipv4) : Prop := Parts 4 cs x.number

/-- The text of an IPv6 address, a percent sign and what is behind it. -/
def Scoped (cs : List Char) (x : Ipv6) (rest : List Char) : Prop :=
  ∃ front, cs = front ++ '%' :: rest ∧ '%' ∉ front ∧ Net.Ipv6Text front x

/-- Decimal digits that write the number of a scope. -/
def IsScope (cs : List Char) (scope : UInt32) : Prop :=
  ∃ ds : List Nat, ds ≠ [] ∧ (∀ d ∈ ds, d < 10) ∧ Text.ofDigits ds = scope.toNat ∧
    cs = ds.map Text.digitChar

/-- A host name that stands for an address by itself. -/
inductive Writes (host : String) (port : UInt16) : SocketAddress → Prop where
  | literal {ip : IpAddress} (text : Net.IpText host.toList ip) : Writes host port ⟨ip, port, 0⟩
  | parts {x : Ipv4} (other : ∀ ip, ¬ Net.IpText host.toList ip)
    (text : InParts host.toList x) : Writes host port ⟨.v4 x, port, 0⟩
  | inScope {x : Ipv6} {rest : List Char} {scope : UInt32}
    (other : ∀ ip, ¬ Net.IpText host.toList ip) (whole : ∀ x, ¬ InParts host.toList x)
    (text : Scoped host.toList x rest) (number : IsScope rest scope) :
    Writes host port ⟨.v6 x, port, scope⟩

/-- A host name with an address and something behind a percent sign that is no scope. -/
structure Misscoped (host : String) : Prop where
  other : ∀ ip, ¬ Net.IpText host.toList ip
  whole : ∀ x, ¬ InParts host.toList x
  marked : ∃ x rest, Scoped host.toList x rest ∧ ∀ scope, ¬ IsScope rest scope

/-- A host name that somebody has to be asked about. -/
structure IsName (host : String) : Prop where
  other : ∀ ip, ¬ Net.IpText host.toList ip
  whole : ∀ x, ¬ InParts host.toList x
  unscoped : ∀ x rest, ¬ Scoped host.toList x rest

/-! ## Parts -/

theorem map_digit?_iff {base : Nat} {cs : List Char} {ds : List Nat} :
    cs.map (digit? base) = ds.map some ↔
      cs.map Text.hexValue? = ds.map some ∧ ∀ d ∈ ds, d < base := by
  induction cs generalizing ds with
  | nil => cases ds <;> simp
  | cons c cs ih =>
    cases ds with
    | nil => simp
    | cons d ds =>
      simp only [List.map_cons, List.cons.injEq, ih, List.forall_mem_cons, digit?,
        Option.filter_eq_some_iff, decide_eq_true_eq]
      exact and_and_and_comm

theorem inBase?_eq_some_iff {base : Nat} {cs : List Char} {n : Nat} :
    inBase? base cs = some n ↔ InBase base cs n := by
  unfold inBase? InBase
  split
  · rename_i empty
    subst empty
    simp
  · rename_i filled
    rw [Option.map_eq_some_iff]
    constructor
    · rintro ⟨ds, read, rfl⟩
      obtain ⟨values, digits⟩ := map_digit?_iff.mp (Text.mapM_eq_some_iff.mp read)
      refine ⟨ds, ?_, digits, values, rfl⟩
      rintro rfl
      exact filled (List.map_eq_nil_iff.mp values)
    · rintro ⟨ds, -, digits, values, rfl⟩
      exact ⟨ds, Text.mapM_eq_some_iff.mpr (map_digit?_iff.mpr ⟨values, digits⟩), rfl⟩

/-- A character that is no digit stands in no run of digits. -/
theorem InBase.notMem {base : Nat} {cs : List Char} {n : Nat} (digits : InBase base cs n)
    {c : Char} (none : Text.hexValue? c = none) : c ∉ cs := by
  obtain ⟨ds, -, -, values, -⟩ := digits
  intro member
  have value : Text.hexValue? c ∈ ds.map some := values ▸ List.mem_map_of_mem member
  rw [none] at value
  obtain ⟨d, -, same⟩ := List.mem_map.mp value
  cases same

/-- Behind a zero and a mark there are hexadecimal digits, since the mark is no digit. -/
theorem digits_of_mark {mark : Char} (noDigit : Text.hexValue? mark = none) {cs : List Char}
    {n : Nat} (part : Part ('0' :: mark :: cs) n) : InBase 16 cs n := by
  cases part with
  | hexadecimal _ digits => exact digits
  | octal digits => exact absurd (by simp) (digits.notMem noDigit)
  | decimal first => exact absurd rfl (first _)

theorem part?_eq_some_iff {cs : List Char} {n : Nat} : part? cs = some n ↔ Part cs n := by
  unfold part?
  split
  · rw [inBase?_eq_some_iff]
    exact ⟨.hexadecimal (.inl rfl), digits_of_mark rfl⟩
  · rw [inBase?_eq_some_iff]
    exact ⟨.hexadecimal (.inr rfl), digits_of_mark rfl⟩
  · rename_i small capital
    rw [inBase?_eq_some_iff]
    refine ⟨.octal, fun part => ?_⟩
    cases part with
    | hexadecimal either =>
      rcases either with rfl | rfl
      · exact absurd rfl (small _)
      · exact absurd rfl (capital _)
    | octal digits => exact digits
    | decimal first => exact absurd rfl (first _)
  · rename_i first
    rw [inBase?_eq_some_iff]
    refine ⟨.decimal first, fun part => ?_⟩
    cases part with
    | hexadecimal | octal => exact absurd rfl (first _)
    | decimal _ digits => exact digits

theorem Part.free {cs : List Char} {n : Nat} (part : Part cs n) : '.' ∉ cs := by
  cases part with
  | hexadecimal either digits =>
    have rest := digits.notMem (show Text.hexValue? '.' = none from rfl)
    rcases either with rfl | rfl <;> simp [rest]
  | octal digits => exact digits.notMem rfl
  | decimal _ digits => exact digits.notMem rfl

/-- What is read of a text before its first point, and of what is behind it. -/
theorem mapM_splitOn_append {cs ds : List Char} (free : '.' ∉ cs) {ns : List Nat} :
    (Text.splitOn '.' (cs ++ '.' :: ds)).mapM part? = some ns ↔
      ∃ n ms, Part cs n ∧ (Text.splitOn '.' ds).mapM part? = some ms ∧ ns = n :: ms := by
  rw [Text.splitOn_append_sep, Text.splitOn_of_notMem free, List.singleton_append, List.mapM_cons]
  constructor
  · intro read
    obtain ⟨n, first, readRest⟩ := Option.bind_eq_some_iff.mp read
    obtain ⟨ms, others, same⟩ := Option.bind_eq_some_iff.mp readRest
    exact ⟨n, ms, part?_eq_some_iff.mp first, others, (Option.some.inj same).symm⟩
  · rintro ⟨n, ms, part, others, rfl⟩
    rw [part?_eq_some_iff.mpr part, others]
    rfl

theorem mapM_splitOn_of_free {cs : List Char} (free : '.' ∉ cs) {ns : List Nat} :
    (Text.splitOn '.' cs).mapM part? = some ns ↔ ∃ n, Part cs n ∧ ns = [n] := by
  rw [Text.splitOn_of_notMem free, Text.mapM_eq_some_iff]
  constructor
  · intro read
    cases ns with
    | nil => cases read
    | cons n ns =>
      obtain ⟨first, none⟩ := List.cons.inj read
      obtain rfl := List.map_eq_nil_iff.mp none.symm
      exact ⟨n, part?_eq_some_iff.mp first, rfl⟩
  · rintro ⟨n, part, rfl⟩
    rw [List.map_singleton, part?_eq_some_iff.mpr part]
    rfl

theorem ofParts?_last {octets n m : Nat} :
    ofParts? (octets + 1) [n] = some m ↔ n < 256 ^ (octets + 1) ∧ n = m := by
  simp [ofParts?]

theorem ofParts?_cons {octets n m : Nat} {ns : List Nat} (more : ns ≠ []) :
    ofParts? (octets + 1) (n :: ns) = some m ↔
      n < 256 ∧ ∃ k, ofParts? octets ns = some k ∧ n * 256 ^ octets + k = m := by
  cases ns with
  | nil => exact absurd rfl more
  | cons k ks => simp [ofParts?]

theorem parts_iff {octets n : Nat} {cs : List Char} :
    ((Text.splitOn '.' cs).mapM part?).bind (ofParts? octets) = some n ↔ Parts octets cs n := by
  induction octets generalizing cs n with
  | zero =>
    constructor
    · intro read
      obtain ⟨ns, -, made⟩ := Option.bind_eq_some_iff.mp read
      cases ns <;> cases made
    · nofun
  | succ octets ih =>
    rw [Option.bind_eq_some_iff]
    constructor
    · rintro ⟨ns, read, made⟩
      by_cases pointed : '.' ∈ cs
      · obtain ⟨front, back, rfl, free⟩ := List.eq_append_cons_of_mem pointed
        obtain ⟨m, ms, part, others, rfl⟩ := (mapM_splitOn_append free).mp read
        have more : ms ≠ [] := by
          rintro rfl
          have none := Text.mapM_eq_some_iff.mp others
          exact Text.splitOn_ne_nil '.' back (List.map_eq_nil_iff.mp none)
        obtain ⟨fits, k, rest, rfl⟩ := (ofParts?_cons more).mp made
        exact .cons part fits (ih.mp (Option.bind_eq_some_iff.mpr ⟨ms, others, rest⟩))
      · obtain ⟨m, part, rfl⟩ := (mapM_splitOn_of_free pointed).mp read
        obtain ⟨fits, rfl⟩ := ofParts?_last.mp made
        exact .last part fits
    · intro parts
      cases parts with
      | last part fits =>
        exact ⟨_, (mapM_splitOn_of_free part.free).mpr ⟨n, part, rfl⟩,
          ofParts?_last.mpr ⟨fits, rfl⟩⟩
      | cons part fits rest =>
        obtain ⟨ms, others, made⟩ := Option.bind_eq_some_iff.mp (ih.mpr rest)
        have more : ms ≠ [] := by
          rintro rfl
          cases octets <;> cases made
        exact ⟨_, (mapM_splitOn_append part.free).mpr ⟨_, ms, part, others, rfl⟩,
          (ofParts?_cons more).mpr ⟨fits, _, made, rfl⟩⟩

theorem Parts.lt {octets n : Nat} {cs : List Char} (parts : Parts octets cs n) :
    n < 256 ^ octets := by
  induction parts with
  | last _ fits => exact fits
  | @cons octets n m cs ds _ fits _ ih =>
    have most : n * 256 ^ octets ≤ 255 * 256 ^ octets := Nat.mul_le_mul_right _ (by omega)
    rw [Nat.pow_succ]
    omega

theorem ofNat_number (x : Ipv4) : Ipv4.ofNat x.number = x := by
  obtain ⟨a, b, c, d⟩ := x
  have bounds := And.intro a.toNat_lt (And.intro b.toNat_lt (And.intro c.toNat_lt d.toNat_lt))
  simp only [Ipv4.ofNat, Ipv4.number, Ipv4.mk.injEq, ← UInt8.toNat_inj, UInt8.toNat_ofNat']
  omega

theorem number_ofNat {n : Nat} (fits : n < 256 ^ 4) : (Ipv4.ofNat n).number = n := by
  simp only [Ipv4.ofNat, Ipv4.number, UInt8.toNat_ofNat']
  omega

theorem inParts?_eq_some_iff {cs : List Char} {x : Ipv4} : inParts? cs = some x ↔ InParts cs x := by
  unfold inParts?
  rw [Option.map_eq_some_iff]
  constructor
  · rintro ⟨n, read, rfl⟩
    have parts := parts_iff.mp read
    show Parts 4 cs (Ipv4.ofNat n).number
    rwa [number_ofNat parts.lt]
  · intro text
    exact ⟨x.number, parts_iff.mpr text, ofNat_number x⟩

/-! ## Scopes -/

theorem scope?_eq_some_iff {cs : List Char} {scope : UInt32} :
    scope? cs = some scope ↔ IsScope cs scope := by
  unfold scope? IsScope
  simp only [Option.bind_eq_some_iff, Text.digits?_eq_some_iff]
  constructor
  · rintro ⟨n, ⟨ds, filled, digits, rfl, rfl⟩, fits⟩
    split at fits
    · rename_i below
      cases fits
      exact ⟨ds, filled, digits, (UInt32.toNat_ofNat_of_lt below).symm, rfl⟩
    · cases fits
  · rintro ⟨ds, filled, digits, value, rfl⟩
    refine ⟨_, ⟨ds, filled, digits, rfl, rfl⟩, ?_⟩
    rw [value, if_pos scope.toNat_lt_size]
    exact congrArg some UInt32.ofNat_toNat

/-- The percent sign that is looked for is the first. -/
theorem front_of_percent {front : List Char} (free : '%' ∉ front) (rest : List Char) :
    (front ++ '%' :: rest).takeWhile (· ≠ '%') = front ∧
      (front ++ '%' :: rest).dropWhile (· ≠ '%') = '%' :: rest := by
  have others : ∀ c ∈ front, decide (c ≠ '%') = true := by
    intro c member
    exact decide_eq_true fun same => free (same ▸ member)
  rw [List.takeWhile_append_of_pos others, List.dropWhile_append_of_pos others]
  simp

theorem scoped?_eq_some_iff {cs : List Char} {found : Except IoError (Ipv6 × UInt32)} :
    scoped? cs = some found ↔ ∃ x rest, Scoped cs x rest ∧
      found = match scope? rest with
        | some scope => .ok (x, scope)
        | none => .error .unknownName := by
  have parted : cs.takeWhile (· ≠ '%') ++ cs.dropWhile (· ≠ '%') = cs :=
    List.takeWhile_append_dropWhile
  have free : '%' ∉ cs.takeWhile (· ≠ '%') := by
    intro member
    simpa using List.all_eq_true.mp List.all_takeWhile _ member
  unfold scoped?
  constructor
  · intro read
    split at read
    · rename_i rest back
      obtain ⟨x, front, rfl⟩ := Option.map_eq_some_iff.mp read
      have text := Net.readIpv6_eq_some_iff.mp (Net.whole_eq_some_iff.mp front)
      rw [back] at parted
      exact ⟨x, rest, ⟨_, parted.symm, free, text⟩, rfl⟩
    · cases read
  · rintro ⟨x, rest, ⟨front, rfl, clean, text⟩, rfl⟩
    obtain ⟨before, behind⟩ := front_of_percent clean rest
    have read : Net.whole Net.readIpv6 front = some x :=
      Net.whole_eq_some_iff.mpr (Net.readIpv6_eq_some_iff.mpr text)
    simp only [behind, before, read]
    rfl

theorem scoped?_eq_none_iff {cs : List Char} :
    scoped? cs = none ↔ ∀ x rest, ¬ Scoped cs x rest := by
  rw [Option.eq_none_iff_forall_ne_some]
  constructor
  · intro none x rest text
    exact none _ (scoped?_eq_some_iff.mpr ⟨x, rest, text, rfl⟩)
  · intro never found read
    obtain ⟨x, rest, text, -⟩ := scoped?_eq_some_iff.mp read
    exact never x rest text

/-! ## Host names -/

section

variable {host : String} {port : UInt16} {a : SocketAddress}

theorem parse?_eq_none_iff :
    IpAddress.parse? host = none ↔ ∀ ip, ¬ Net.IpText host.toList ip := by
  simp only [Option.eq_none_iff_forall_ne_some, ne_eq, IpAddress.parse?_eq_some_iff]

theorem inParts?_eq_none_iff {cs : List Char} : inParts? cs = none ↔ ∀ x, ¬ InParts cs x := by
  simp only [Option.eq_none_iff_forall_ne_some, ne_eq, inParts?_eq_some_iff]

theorem address?_of_unparted (other : ∀ ip, ¬ Net.IpText host.toList ip)
    (whole : ∀ x, ¬ InParts host.toList x) : address? host port = (scoped? host.toList).map
      (Except.map fun found => ⟨.v6 found.1, port, found.2⟩) := by
  unfold address?
  rw [parse?_eq_none_iff.mpr other, inParts?_eq_none_iff.mpr whole]

theorem address?_of_writes (writes : Writes host port a) : address? host port = some (.ok a) := by
  cases writes with
  | literal text => rw [address?, IpAddress.parse?_eq_some_iff.mpr text]
  | parts other text => rw [address?, parse?_eq_none_iff.mpr other, inParts?_eq_some_iff.mpr text]
  | inScope other whole text number =>
    rw [address?_of_unparted other whole, scoped?_eq_some_iff.mpr ⟨_, _, text, rfl⟩,
      scope?_eq_some_iff.mpr number]
    rfl

theorem address?_of_misscoped (misscoped : Misscoped host) :
    address? host port = some (.error .unknownName) := by
  obtain ⟨other, whole, x, rest, text, noScope⟩ := misscoped
  have number : scope? rest = none := by
    rw [Option.eq_none_iff_forall_ne_some]
    exact fun scope read => noScope scope (scope?_eq_some_iff.mp read)
  rw [address?_of_unparted other whole, scoped?_eq_some_iff.mpr ⟨x, rest, text, rfl⟩, number]
  rfl

theorem address?_of_isName (name : IsName host) : address? host port = none := by
  rw [address?_of_unparted name.other name.whole, scoped?_eq_none_iff.mpr name.unscoped]
  rfl

/-- There is no fourth kind of host name. -/
theorem writes_or (host : String) (port : UInt16) :
    (∃ a, Writes host port a) ∨ Misscoped host ∨ IsName host := by
  by_cases literal : ∃ ip, Net.IpText host.toList ip
  · obtain ⟨ip, text⟩ := literal
    exact .inl ⟨_, .literal text⟩
  have other := not_exists.mp literal
  by_cases parts : ∃ x, InParts host.toList x
  · obtain ⟨x, text⟩ := parts
    exact .inl ⟨_, .parts other text⟩
  have whole := not_exists.mp parts
  by_cases marked : ∃ x rest, Scoped host.toList x rest
  · obtain ⟨x, rest, text⟩ := marked
    by_cases number : ∃ scope, IsScope rest scope
    · obtain ⟨scope, number⟩ := number
      exact .inl ⟨_, .inScope other whole text number⟩
    · exact .inr (.inl ⟨other, whole, x, rest, text, not_exists.mp number⟩)
  · exact .inr (.inr ⟨other, whole, fun x rest text => marked ⟨x, rest, text⟩⟩)

/-- A host name is taken for an address exactly when it writes one. -/
theorem address?_eq_ok_iff : address? host port = some (.ok a) ↔ Writes host port a := by
  refine ⟨fun read => ?_, address?_of_writes⟩
  rcases writes_or host port with ⟨b, writes⟩ | misscoped | name
  · cases read.symm.trans (address?_of_writes writes)
    exact writes
  · cases read.symm.trans (address?_of_misscoped misscoped)
  · cases read.symm.trans (address?_of_isName name)

theorem address?_eq_error_iff {e : IoError} :
    address? host port = some (.error e) ↔ e = .unknownName ∧ Misscoped host := by
  constructor
  · intro read
    rcases writes_or host port with ⟨b, writes⟩ | misscoped | name
    · cases read.symm.trans (address?_of_writes writes)
    · cases read.symm.trans (address?_of_misscoped misscoped)
      exact ⟨rfl, misscoped⟩
    · cases read.symm.trans (address?_of_isName name)
  · rintro ⟨rfl, misscoped⟩
    exact address?_of_misscoped misscoped

/-- Any other host name has to be looked up. -/
theorem address?_eq_none_iff : address? host port = none ↔ IsName host := by
  refine ⟨fun none => ?_, address?_of_isName⟩
  rcases writes_or host port with ⟨b, writes⟩ | misscoped | name
  · cases none.symm.trans (address?_of_writes writes)
  · cases none.symm.trans (address?_of_misscoped misscoped)
  · exact name

end

end HostName

end StartSignal
