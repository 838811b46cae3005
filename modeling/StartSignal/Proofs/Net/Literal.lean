/-
# StartSignal.Proofs.Net.Literal -- which texts are IP addresses

The only text of an IPv4 address is the one that is written for it.  An IPv6 address is eight
groups between colons, or fewer on either side of a double colon; the last two groups may be
written as an IPv4 address (`Groups`, `Ipv6Text`).  Those are the texts that are read as
addresses (`parse?_eq_some_iff`).

The readers take as much as they can, so each lemma says what a reader takes off a text and
that what is left does not go on (`Stops`, `Halts`).

Main result: `parse?_eq_some_iff`.
-/
import StartSignal.Net.Address
import StartSignal.Proofs.Text.Numeral

namespace StartSignal.Net

/-! ## Texts of addresses -/

/-- The text of a group: up to four hexadecimal digits, in either case. -/
def IsGroup (cs : List Char) (g : UInt16) : Prop :=
  ∃ ds : List Nat, cs.map Text.hexValue? = ds.map some ∧ ds ≠ [] ∧ ds.length ≤ 4 ∧
    (ds.foldl (fun n d => 16 * n + d) 0).toUInt16 = g

/-- The text of groups between colons; if it is `mixed`, the last two may be written as an IPv4
address. -/
inductive Groups (mixed : Bool) : List Char → List UInt16 → Prop where
  | one {cs : List Char} {g : UInt16} (group : IsGroup cs g) : Groups mixed cs [g]
  | dotted (x : Ipv4) (allowed : mixed = true) : Groups mixed (ipv4Chars x) (Ipv4.asGroups x)
  | cons {cs ds : List Char} {g : UInt16} {gs : List UInt16} (group : IsGroup cs g)
    (rest : Groups mixed ds gs) : Groups mixed (cs ++ ':' :: ds) (g :: gs)

/-- The text of groups on one side of a double colon, where there may be none. -/
def Side (mixed : Bool) (cs : List Char) (gs : List UInt16) : Prop :=
  cs = [] ∧ gs = [] ∨ Groups mixed cs gs

inductive Ipv6Text : List Char → Ipv6 → Prop where
  | full {cs : List Char} {gs : List UInt16} (groups : Groups true cs gs)
    (eight : gs.length = 8) : Ipv6Text cs (padGroups gs [])
  /-- A double colon stands for zeros, one at least. -/
  | elided {hs ts : List Char} {head tail : List UInt16} (before : Side false hs head)
    (after : Side true ts tail) (fewer : head.length + tail.length ≤ 7) :
    Ipv6Text (hs ++ ':' :: ':' :: ts) (padGroups head tail)

inductive IpText : List Char → IpAddress → Prop where
  | v4 (x : Ipv4) : IpText (ipv4Chars x) (.v4 x)
  | v6 {cs : List Char} {x : Ipv6} (text : Ipv6Text cs x) : IpText cs (.v6 x)

/-! ## Digits -/

/-- No digit comes next. -/
def Stops (value? : Char → Option Nat) (cs : List Char) : Prop :=
  ∀ c rest, cs = c :: rest → value? c = none

section Digits

variable {value? : Char → Option Nat} {cs rest : List Char} {ds : List Nat}

theorem stops_nil : Stops value? [] := nofun

theorem stops_cons {c : Char} (none : value? c = none) : Stops value? (c :: cs) := by
  rintro _ _ ⟨⟩
  exact none

theorem spanDigits_append {front : List Char} (values : front.map value? = ds.map some)
    (stops : Stops value? rest) : spanDigits value? (front ++ rest) = (ds, rest) := by
  induction front generalizing ds with
  | nil =>
    obtain rfl := List.map_eq_nil_iff.mp values.symm
    show spanDigits value? rest = ([], rest)
    cases rest with
    | nil => rfl
    | cons c rest => rw [spanDigits, stops c rest rfl]
  | cons c front ih =>
    cases ds with
    | nil => cases values
    | cons d ds =>
      obtain ⟨first, values⟩ := List.cons.inj values
      rw [List.cons_append, spanDigits, first]
      dsimp only
      rw [ih values]

theorem spanDigits_spec (value? : Char → Option Nat) (cs : List Char) :
    ∃ front, cs = front ++ (spanDigits value? cs).2 ∧
      front.map value? = (spanDigits value? cs).1.map some ∧
      Stops value? (spanDigits value? cs).2 := by
  induction cs with
  | nil => exact ⟨[], rfl, rfl, stops_nil⟩
  | cons c cs ih =>
    rw [spanDigits]
    cases first : value? c with
    | none => exact ⟨[], rfl, rfl, stops_cons first⟩
    | some d =>
      obtain ⟨front, whole, values, stops⟩ := ih
      refine ⟨c :: front, congrArg (c :: ·) whole, ?_, stops⟩
      rw [List.map_cons, List.map_cons, first, values]

/-- Digits are taken as far as they go. -/
theorem spanDigits_eq_iff :
    spanDigits value? cs = (ds, rest) ↔
      ∃ front, cs = front ++ rest ∧ front.map value? = ds.map some ∧ Stops value? rest := by
  constructor
  · intro taken
    have spec := spanDigits_spec value? cs
    rw [taken] at spec
    exact spec
  · rintro ⟨front, rfl, values, stops⟩
    exact spanDigits_append values stops

end Digits

theorem readChar_eq_some_iff {c : Char} {cs rest : List Char} :
    readChar c cs = some rest ↔ cs = c :: rest := by
  cases cs with
  | nil => simp [readChar]
  | cons d cs =>
    rw [readChar]
    by_cases same : d = c
    · rw [if_pos same, same]
      simp
    · rw [if_neg same]
      simp [same]

/-! ## IPv4 addresses -/

theorem map_digitValue?_iff {cs : List Char} {ds : List Nat} :
    cs.map Text.digitValue? = ds.map some ↔ (∀ d ∈ ds, d < 10) ∧ cs = ds.map Text.digitChar := by
  induction ds generalizing cs with
  | nil => simp
  | cons d ds ih =>
    cases cs with
    | nil => simp
    | cons c cs =>
      simp only [List.map_cons, List.cons.injEq, ih, Text.digitValue?_eq_some_iff,
        List.forall_mem_cons]
      constructor
      · rintro ⟨⟨digit, first⟩, digits, others⟩
        exact ⟨⟨digit, digits⟩, first, others⟩
      · rintro ⟨⟨digit, digits⟩, first, others⟩
        exact ⟨⟨digit, first⟩, digits, others⟩

def shortDigits (n : Nat) : List Nat :=
  if n < 10 then [n]
  else if n < 100 then [n / 10, n % 10]
  else [n / 100, n / 10 % 10, n % 10]

theorem decimal_eq_shortDigits {n : Nat} (small : n < 1000) :
    Text.decimal n = (shortDigits n).map Text.digitChar := by
  unfold shortDigits
  by_cases one : n < 10
  · rw [Text.decimal, if_pos one, if_pos one]
    rfl
  by_cases two : n < 100
  · have first : n / 10 < 10 := by omega
    rw [Text.decimal, if_neg one, Text.decimal, if_pos first, if_neg one, if_pos two]
    rfl
  · have second : ¬ n / 10 < 10 := by omega
    have first : n / 10 / 10 < 10 := by omega
    rw [Text.decimal, if_neg one, Text.decimal, if_neg second, Text.decimal, if_pos first,
      if_neg one, if_neg two, Nat.div_div_eq_div_mul]
    rfl

/-- What may be the digits of an octet: three at most, and no zero leads them. -/
structure Short (ds : List Nat) : Prop where
  nonempty : ds ≠ []
  digits : ∀ d ∈ ds, d < 10
  few : ds.length ≤ 3
  plain : ¬ (1 < ds.length ∧ ds.head? = some 0)

theorem short_shortDigits {n : Nat} (small : n < 1000) :
    Short (shortDigits n) ∧ Text.ofDigits (shortDigits n) = n := by
  unfold shortDigits
  split
  · exact ⟨⟨by simp, by simpa, by simp, by simp⟩, by simp [Text.ofDigits]⟩
  · split
    · refine ⟨⟨by simp, ?_, by simp, ?_⟩, ?_⟩
      · simp only [List.forall_mem_cons]
        exact ⟨by omega, by omega, List.forall_mem_nil _⟩
      · simp only [List.head?_cons, Option.some.injEq]
        omega
      · simp only [Text.ofDigits, List.foldl_cons, List.foldl_nil]
        omega
    · refine ⟨⟨by simp, ?_, by simp, ?_⟩, ?_⟩
      · simp only [List.forall_mem_cons]
        exact ⟨by omega, by omega, by omega, List.forall_mem_nil _⟩
      · simp only [List.head?_cons, Option.some.injEq]
        omega
      · simp only [Text.ofDigits, List.foldl_cons, List.foldl_nil]
        omega

theorem Short.shortDigits_eq {ds : List Nat} (short : Short ds) :
    shortDigits (Text.ofDigits ds) = ds := by
  obtain ⟨nonempty, digits, few, plain⟩ := short
  match ds with
  | [] => exact absurd rfl nonempty
  | [a] =>
    have first := digits a (by simp)
    simp [Text.ofDigits, shortDigits, first]
  | [a, b] =>
    have first := digits a (by simp)
    have second := digits b (by simp)
    have some : a ≠ 0 := fun zero => plain ⟨by simp, by simp [zero]⟩
    have number : Text.ofDigits [a, b] = 10 * a + b := by simp [Text.ofDigits]
    rw [number, shortDigits, if_neg (by omega), if_pos (by omega)]
    simp only [List.cons.injEq, and_true]
    omega
  | [a, b, c] =>
    have first := digits a (by simp)
    have second := digits b (by simp)
    have third := digits c (by simp)
    have some : a ≠ 0 := fun zero => plain ⟨by simp, by simp [zero]⟩
    have number : Text.ofDigits [a, b, c] = 10 * (10 * a + b) + c := by simp [Text.ofDigits]
    rw [number, shortDigits, if_neg (by omega), if_neg (by omega)]
    simp only [List.cons.injEq, and_true]
    omega
  | _ :: _ :: _ :: _ :: _ =>
    simp only [List.length_cons] at few
    omega

theorem readOctet_decimal {n : UInt8} {rest : List Char} (stops : Stops Text.digitValue? rest) :
    readOctet (Text.decimal n.toNat ++ rest) = some (n, rest) := by
  have small : n.toNat < 1000 := Nat.lt_trans n.toNat_lt (by decide)
  obtain ⟨⟨nonempty, digits, few, plain⟩, number⟩ := short_shortDigits small
  have written := map_digitValue?_iff.mpr ⟨digits, decimal_eq_shortDigits small⟩
  unfold readOctet
  rw [spanDigits_append written stops]
  cases ds : shortDigits n.toNat with
  | nil => exact absurd ds nonempty
  | cons d more =>
    rw [ds] at few plain number
    simp only [number]
    rw [if_pos ⟨few, plain, n.toNat_lt⟩, Nat.toUInt8_eq, UInt8.ofNat_toNat]

theorem readOctet_eq_some_iff {cs rest : List Char} {n : UInt8} :
    readOctet cs = some (n, rest) ↔
      cs = Text.decimal n.toNat ++ rest ∧ Stops Text.digitValue? rest := by
  constructor
  · intro taken
    unfold readOctet at taken
    split at taken
    · cases taken
    · rename_i ds rest' nonempty span
      dsimp only at taken
      split at taken
      · rename_i fits
        obtain ⟨few, plain, small⟩ := fits
        obtain ⟨rfl, rfl⟩ := Prod.mk.inj (Option.some.inj taken)
        obtain ⟨front, rfl, values, stops⟩ := spanDigits_eq_iff.mp span
        obtain ⟨digits, rfl⟩ := map_digitValue?_iff.mp values
        have short : Short ds := ⟨nonempty, digits, few, plain⟩
        have number : (Text.ofDigits ds).toUInt8.toNat = Text.ofDigits ds :=
          UInt8.toNat_ofNat_of_lt' small
        refine ⟨?_, stops⟩
        rw [number, decimal_eq_shortDigits (Nat.lt_trans small (by decide)), short.shortDigits_eq]
      · cases taken
  · rintro ⟨rfl, stops⟩
    exact readOctet_decimal stops

theorem readIpv4_eq_some_iff {cs rest : List Char} {x : Ipv4} :
    readIpv4 cs = some (x, rest) ↔ cs = ipv4Chars x ++ rest ∧ Stops Text.digitValue? rest := by
  simp only [readIpv4, Option.bind_eq_bind, Option.bind_eq_some_iff, Option.pure_def,
    Option.some.injEq, Prod.mk.injEq, Prod.exists, readChar_eq_some_iff, readOctet_eq_some_iff]
  constructor
  · rintro ⟨a, _, ⟨rfl, -⟩, _, rfl, b, _, ⟨rfl, -⟩, _, rfl, c, _, ⟨rfl, -⟩, _, rfl, d, _,
      ⟨rfl, stops⟩, rfl, rfl⟩
    refine ⟨?_, stops⟩
    simp only [ipv4Chars, List.append_assoc, List.cons_append]
  · rintro ⟨rfl, stops⟩
    have point : ∀ cs, Stops Text.digitValue? ('.' :: cs) := fun cs => stops_cons rfl
    refine ⟨x.a, _, ⟨?_, point _⟩, _, rfl, x.b, _, ⟨rfl, point _⟩, _, rfl, x.c, _,
      ⟨rfl, point _⟩, _, rfl, x.d, rest, ⟨rfl, stops⟩, rfl, rfl⟩
    simp only [ipv4Chars, List.append_assoc, List.cons_append]

/-! ## Groups -/

theorem readGroup_eq_some_iff {cs rest : List Char} {g : UInt16} :
    readGroup cs = some (g, rest) ↔
      ∃ front, cs = front ++ rest ∧ IsGroup front g ∧ Stops Text.hexValue? rest := by
  constructor
  · intro taken
    unfold readGroup at taken
    split at taken
    · cases taken
    · rename_i ds rest' nonempty span
      split at taken
      · rename_i few
        obtain ⟨rfl, rfl⟩ := Prod.mk.inj (Option.some.inj taken)
        obtain ⟨front, whole, values, stops⟩ := spanDigits_eq_iff.mp span
        exact ⟨front, whole, ⟨ds, values, nonempty, few, rfl⟩, stops⟩
      · cases taken
  · rintro ⟨front, rfl, ⟨ds, values, nonempty, few, rfl⟩, stops⟩
    have span : spanDigits Text.hexValue? (front ++ rest) = (ds, rest) :=
      spanDigits_eq_iff.mpr ⟨front, rfl, values, stops⟩
    unfold readGroup
    rw [span]
    cases ds with
    | nil => exact absurd rfl nonempty
    | cons d ds => exact if_pos few

/-- What may come after groups: nothing, or a double colon. -/
def Halts (cs : List Char) : Prop := cs = [] ∨ ∃ ts, cs = ':' :: ':' :: ts

/-- A text that goes on with a colon, or not at all. -/
def Breaks (cs : List Char) : Prop := cs = [] ∨ ∃ ts, cs = ':' :: ts

theorem Halts.breaks {cs : List Char} (halts : Halts cs) : Breaks cs := by
  rcases halts with rfl | ⟨ts, rfl⟩
  · exact .inl rfl
  · exact .inr ⟨_, rfl⟩

theorem Breaks.stops {value? : Char → Option Nat} {cs : List Char} (breaks : Breaks cs)
    (none : value? ':' = none) : Stops value? cs := by
  rcases breaks with rfl | ⟨ts, rfl⟩
  · exact stops_nil
  · exact stops_cons none

theorem IsGroup.hex {cs : List Char} {g : UInt16} (group : IsGroup cs g) :
    ∀ c ∈ cs, Text.hexValue? c ≠ none := by
  obtain ⟨ds, values, -, -, -⟩ := group
  intro c member none
  have among : Text.hexValue? c ∈ ds.map some := values ▸ List.mem_map_of_mem member
  rw [none] at among
  obtain ⟨d, -, same⟩ := List.mem_map.mp among
  cases same

theorem IsGroup.ne_nil {cs : List Char} {g : UInt16} (group : IsGroup cs g) : cs ≠ [] := by
  rintro rfl
  obtain ⟨ds, values, nonempty, -, -⟩ := group
  exact nonempty (List.map_eq_nil_iff.mp values.symm)

theorem digitValue?_of_mem_decimal {n : Nat} {c : Char} (member : c ∈ Text.decimal n) :
    Text.digitValue? c ≠ none := by
  obtain ⟨ds, -, digits, -, written⟩ := Text.exists_digits_decimal n
  rw [written] at member
  obtain ⟨d, among, rfl⟩ := List.mem_map.mp member
  rw [Text.digitValue?_digitChar (digits d among)]
  exact Option.some_ne_none d

/-- Neither digits nor a point come at a break. -/
theorem Breaks.not_dotted {cs ds : List Char} (breaks : Breaks (cs ++ '.' :: ds))
    (digits : ∀ c ∈ cs, Text.digitValue? c ≠ none) : False := by
  rcases breaks with none | ⟨ts, colon⟩
  · simp at none
  · cases cs with
    | nil => cases colon
    | cons c cs =>
      obtain ⟨rfl, -⟩ := List.cons.inj colon
      exact digits ':' List.mem_cons_self rfl

/-- An IPv4 address starts with a number and a point. -/
theorem readIpv4_eq_none {cs : List Char}
    (other : ∀ n ds, cs ≠ Text.decimal n ++ '.' :: ds) : readIpv4 cs = none := by
  cases taken : readIpv4 cs with
  | none => rfl
  | some read =>
    obtain ⟨x, rest⟩ := read
    obtain ⟨whole, -⟩ := readIpv4_eq_some_iff.mp taken
    simp only [ipv4Chars, List.append_assoc, List.cons_append] at whole
    exact absurd whole (other _ _)

theorem Breaks.readIpv4_eq_none {cs : List Char} (breaks : Breaks cs) : readIpv4 cs = none := by
  refine Net.readIpv4_eq_none ?_
  rintro n ds rfl
  exact breaks.not_dotted fun c member => digitValue?_of_mem_decimal member

/-- No IPv4 address starts with a group before a break. -/
theorem IsGroup.readIpv4_eq_none {cs rest : List Char} {g : UInt16} (group : IsGroup cs g)
    (breaks : Breaks rest) : readIpv4 (cs ++ rest) = none := by
  refine Net.readIpv4_eq_none fun n ds whole => ?_
  rcases List.append_eq_append_iff.mp whole with ⟨more, written, rfl⟩ | ⟨more, rfl, point⟩
  · refine breaks.not_dotted fun c member => digitValue?_of_mem_decimal (n := n) ?_
    rw [written]
    exact List.mem_append_right _ member
  · cases more with
    | nil =>
      rw [List.nil_append] at point
      rw [← point, ← List.nil_append ('.' :: ds)] at breaks
      exact breaks.not_dotted (List.forall_mem_nil _)
    | cons c more =>
      obtain ⟨rfl, -⟩ := List.cons.inj point
      exact group.hex '.' (by simp) rfl

theorem Breaks.readGroup_eq_none {cs : List Char} (breaks : Breaks cs) : readGroup cs = none := by
  cases taken : readGroup cs with
  | none => rfl
  | some read =>
    obtain ⟨g, rest⟩ := read
    obtain ⟨front, rfl, group, -⟩ := readGroup_eq_some_iff.mp taken
    cases front with
    | nil => exact absurd rfl group.ne_nil
    | cons c front =>
      rcases breaks with none | ⟨ts, colon⟩
      · cases none
      · obtain ⟨rfl, -⟩ := List.cons.inj colon
        exact absurd rfl (group.hex ':' List.mem_cons_self)

/-- A text of groups as it is read: with a colon before it unless it is the first. -/
def led (first : Bool) (cs : List Char) : List Char := if first then cs else ':' :: cs

/-- What a text looks like once the colon that is due has been taken. -/
theorem lead_eq (first : Bool) (cs : List Char) :
    (if first then some (led first cs) else readChar ':' (led first cs)) = some cs := by
  cases first <;> rfl

/-- No more groups are taken where they cannot go on. -/
theorem readGroups_halts {rest : List Char} (halts : Halts rest) (first : Bool) (room : Nat) :
    readGroups first room rest = ([], false, rest) := by
  cases room with
  | zero => rw [readGroups]
  | succ room =>
    have next : (if first then some rest else readChar ':' rest) = none ∨
        ∃ here, (if first then some rest else readChar ':' rest) = some here ∧ Breaks here := by
      cases first with
      | true => exact .inr ⟨rest, rfl, halts.breaks⟩
      | false =>
        rcases halts with rfl | ⟨ts, rfl⟩
        · exact .inl rfl
        · exact .inr ⟨':' :: ts, rfl, .inr ⟨ts, rfl⟩⟩
    rw [readGroups]
    rcases next with none | ⟨here, some, breaks⟩
    · rw [none]
    · rw [some]
      simp only [breaks.readIpv4_eq_none, breaks.readGroup_eq_none, ite_self]

/-- A group is taken, and then those that come after it. -/
theorem readGroups_group {cs rest : List Char} {g : UInt16} (group : IsGroup cs g)
    (breaks : Breaks rest) (first : Bool) (room : Nat) :
    readGroups first (room + 1) (led first cs ++ rest) =
      (g :: (readGroups false room rest).1, (readGroups false room rest).2) := by
  have taken : readGroup (cs ++ rest) = some (g, rest) :=
    readGroup_eq_some_iff.mpr ⟨cs, rfl, group, breaks.stops rfl⟩
  have split : led first cs ++ rest = led first (cs ++ rest) := by cases first <;> rfl
  rw [split, readGroups, lead_eq]
  simp only [group.readIpv4_eq_none breaks, taken, ite_self]

/-- Groups are taken to their end. -/
theorem readGroups_groups {mixed : Bool} {cs : List Char} {gs : List UInt16}
    (groups : Groups mixed cs gs) {rest : List Char} (halts : Halts rest) {first : Bool}
    {room : Nat} (fits : gs.length ≤ room) :
    ∃ dotted, (mixed = false → dotted = false) ∧
      readGroups first room (led first cs ++ rest) = (gs, dotted, rest) := by
  induction groups generalizing first room with
  | one group =>
    obtain ⟨room, rfl⟩ : ∃ n, room = n + 1 := ⟨room - 1, by simp at fits; omega⟩
    refine ⟨false, fun _ => rfl, ?_⟩
    rw [readGroups_group group halts.breaks, readGroups_halts halts]
  | dotted x allowed =>
    obtain ⟨room, rfl⟩ : ∃ n, room = n + 2 := ⟨room - 2, by simp [Ipv4.asGroups] at fits; omega⟩
    refine ⟨true, fun pure => ?_, ?_⟩
    · rw [allowed] at pure
      cases pure
    · have taken : readIpv4 (ipv4Chars x ++ rest) = some (x, rest) :=
        readIpv4_eq_some_iff.mpr ⟨rfl, halts.breaks.stops rfl⟩
      have split : led first (ipv4Chars x) ++ rest = led first (ipv4Chars x ++ rest) := by
        cases first <;> rfl
      rw [split, readGroups, lead_eq]
      simp only [taken, Nat.add_eq_zero_iff, Nat.succ_ne_self, and_false, if_false]
  | @cons cs ds g gs group others ih =>
    obtain ⟨room, rfl⟩ : ∃ n, room = n + 1 := ⟨room - 1, by simp at fits; omega⟩
    have fewer : gs.length ≤ room := by simpa using fits
    obtain ⟨dotted, pure, taken⟩ := @ih false room fewer
    have breaks : Breaks (led false ds ++ rest) := .inr ⟨ds ++ rest, rfl⟩
    have split : led first (cs ++ ':' :: ds) ++ rest = led first cs ++ (led false ds ++ rest) := by
      cases first <;> simp [led]
    refine ⟨dotted, pure, ?_⟩
    rw [split, readGroups_group group breaks, taken]

theorem eq_led {first : Bool} {cs here : List Char}
    (lead : (if first then some cs else readChar ':' cs) = some here) : cs = led first here := by
  cases first with
  | true => exact Option.some.inj lead
  | false => exact readChar_eq_some_iff.mp lead

theorem led_append (first : Bool) (cs ds : List Char) :
    led first (cs ++ ds) = led first cs ++ ds := by
  cases first <;> rfl

/-- What is taken are groups. -/
theorem groups_of_readGroups {first dotted : Bool} {room : Nat} {cs rest : List Char}
    {gs : List UInt16} (taken : readGroups first room cs = (gs, dotted, rest)) :
    gs.length ≤ room ∧ (gs = [] ∧ dotted = false ∧ rest = cs ∨
      ∃ ds, cs = led first ds ++ rest ∧ Groups dotted ds gs) := by
  induction room generalizing first cs gs with
  | zero =>
    rw [readGroups] at taken
    cases taken
    exact ⟨Nat.le_refl 0, .inl ⟨rfl, rfl, rfl⟩⟩
  | succ room ih =>
    rw [readGroups] at taken
    split at taken
    · cases taken
      exact ⟨Nat.zero_le _, .inl ⟨rfl, rfl, rfl⟩⟩
    · rename_i here lead
      obtain rfl := eq_led lead
      split at taken
      · rename_i x rest' read
        cases taken
        split at read
        · cases read
        · rename_i more
          obtain ⟨rfl, -⟩ := readIpv4_eq_some_iff.mp read
          have fits : (Ipv4.asGroups x).length ≤ room + 1 := by
            simp only [Ipv4.asGroups, List.length_cons, List.length_nil]
            omega
          exact ⟨fits, .inr ⟨ipv4Chars x, led_append _ _ _, .dotted x rfl⟩⟩
      · split at taken
        · cases taken
          exact ⟨Nat.zero_le _, .inl ⟨rfl, rfl, rfl⟩⟩
        · rename_i g rest' read
          obtain ⟨front, rfl, group, -⟩ := readGroup_eq_some_iff.mp read
          rcases inside : readGroups false room rest' with ⟨more, dotted', rest''⟩
          rw [inside] at taken
          cases taken
          obtain ⟨fits, none | ⟨ds, rfl, groups⟩⟩ := ih inside
          · obtain ⟨rfl, rfl, rfl⟩ := none
            exact ⟨Nat.succ_le_succ fits, .inr ⟨front, led_append _ _ _, .one group⟩⟩
          · refine ⟨Nat.succ_le_succ fits, .inr ⟨front ++ ':' :: ds, ?_, .cons group groups⟩⟩
            rw [led_append, led_append, List.append_assoc]
            rfl

/-! ## IPv6 addresses -/

theorem side_of_readGroups {dotted : Bool} {room : Nat} {cs rest : List Char} {gs : List UInt16}
    (taken : readGroups true room cs = (gs, dotted, rest)) :
    gs.length ≤ room ∧ ∃ ds, cs = ds ++ rest ∧ Side dotted ds gs := by
  obtain ⟨fits, ⟨rfl, rfl, rfl⟩ | ⟨ds, rfl, groups⟩⟩ := groups_of_readGroups taken
  · exact ⟨fits, [], rfl, .inl ⟨rfl, rfl⟩⟩
  · exact ⟨fits, ds, rfl, .inr groups⟩

theorem readGroups_side {mixed : Bool} {cs : List Char} {gs : List UInt16}
    (side : Side mixed cs gs) {rest : List Char} (halts : Halts rest) {room : Nat}
    (fits : gs.length ≤ room) :
    ∃ dotted, (mixed = false → dotted = false) ∧
      readGroups true room (cs ++ rest) = (gs, dotted, rest) := by
  rcases side with ⟨rfl, rfl⟩ | groups
  · exact ⟨false, fun _ => rfl, readGroups_halts halts true room⟩
  · exact readGroups_groups groups halts fits

theorem Groups.mono {mixed : Bool} {cs : List Char} {gs : List UInt16}
    (groups : Groups mixed cs gs) : Groups true cs gs := by
  induction groups with
  | one group => exact .one group
  | dotted x _ => exact .dotted x rfl
  | cons group _ ih => exact .cons group ih

theorem Side.mono {mixed : Bool} {cs : List Char} {gs : List UInt16} (side : Side mixed cs gs) :
    Side true cs gs := side.imp_right Groups.mono

theorem ipv6Text_of_readIpv6 {cs : List Char} {x : Ipv6} (taken : readIpv6 cs = some (x, [])) :
    Ipv6Text cs x := by
  unfold readIpv6 at taken
  rcases front : readGroups true 8 cs with ⟨head, dotted, rest⟩
  obtain ⟨fits, hs, rfl, before⟩ := side_of_readGroups front
  rw [front] at taken
  dsimp only at taken
  split at taken
  · rename_i eight
    cases taken
    rcases before with ⟨-, rfl⟩ | groups
    · cases eight
    · rw [List.append_nil]
      exact .full groups.mono eight
  · rename_i notEight
    split at taken
    · cases taken
    · rename_i pure
      obtain rfl : dotted = false := by simpa using pure
      simp only [Option.bind_eq_bind, Option.bind_eq_some_iff, readChar_eq_some_iff,
        Option.pure_def, Option.some.injEq, Prod.mk.injEq] at taken
      obtain ⟨_, rfl, ts, rfl, rfl, none⟩ := taken
      rcases back : readGroups true (7 - head.length) ts with ⟨tail, dotted, rest⟩
      obtain ⟨fits', ts, rfl, after⟩ := side_of_readGroups back
      rw [back] at none
      obtain rfl : rest = [] := none
      have fewer : head.length + tail.length ≤ 7 := by omega
      rw [List.append_nil]
      exact .elided before after.mono fewer

theorem Ipv6Text.readIpv6_eq {cs : List Char} {x : Ipv6} (text : Ipv6Text cs x) :
    readIpv6 cs = some (x, []) := by
  cases text with
  | full groups eight =>
    obtain ⟨dotted, -, taken⟩ := readGroups_side (.inr groups) (.inl rfl) (Nat.le_of_eq eight)
    rw [List.append_nil] at taken
    unfold readIpv6
    rw [taken]
    exact if_pos eight
  | @elided hs ts head tail before after fewer =>
    have few : head.length ≤ 8 := by omega
    obtain ⟨dotted, pure, front⟩ := readGroups_side before (.inr ⟨ts, rfl⟩) few
    have fits : tail.length ≤ 7 - head.length := by omega
    obtain ⟨dotted', -, back⟩ := readGroups_side after (.inl rfl) fits
    have notEight : ¬ head.length = 8 := by omega
    rw [List.append_nil] at back
    unfold readIpv6
    rw [front]
    dsimp only
    rw [if_neg notEight, pure rfl, if_neg Bool.false_ne_true]
    simp only [readChar, if_true, Option.bind_eq_bind, Option.bind_some, back]
    rfl

/-- What is read as an IPv6 address, with nothing left, is the text of one. -/
theorem readIpv6_eq_some_iff {cs : List Char} {x : Ipv6} :
    readIpv6 cs = some (x, []) ↔ Ipv6Text cs x :=
  ⟨ipv6Text_of_readIpv6, Ipv6Text.readIpv6_eq⟩

/-- No IPv6 address starts with an IPv4 address. -/
theorem Ipv6Text.readIpv4_eq_none {cs : List Char} {x : Ipv6} (text : Ipv6Text cs x) :
    readIpv4 cs = none := by
  cases text with
  | full groups eight =>
    cases groups with
    | one group => cases eight
    | dotted x _ => cases eight
    | cons group _ => exact group.readIpv4_eq_none (.inr ⟨_, rfl⟩)
  | elided before after fewer =>
    rcases before with ⟨rfl, rfl⟩ | groups
    · exact Breaks.readIpv4_eq_none (.inr ⟨_, rfl⟩)
    · cases groups with
      | one group => exact group.readIpv4_eq_none (.inr ⟨_, rfl⟩)
      | dotted x mixed => cases mixed
      | cons group _ =>
        rw [List.append_assoc]
        exact group.readIpv4_eq_none (.inr ⟨_, rfl⟩)

theorem readIp_eq_some_iff {cs : List Char} {ip : IpAddress} :
    readIp cs = some (ip, []) ↔ IpText cs ip := by
  unfold readIp
  constructor
  · intro read
    split at read
    · rename_i a rest taken
      cases read
      obtain ⟨rfl, -⟩ := readIpv4_eq_some_iff.mp taken
      rw [List.append_nil]
      exact .v4 a
    · obtain ⟨⟨x, rest⟩, taken, same⟩ := Option.map_eq_some_iff.mp read
      cases same
      exact .v6 (readIpv6_eq_some_iff.mp taken)
  · intro text
    cases text with
    | v4 x =>
      have taken : readIpv4 (ipv4Chars x) = some (x, []) :=
        readIpv4_eq_some_iff.mpr ⟨(List.append_nil _).symm, stops_nil⟩
      rw [taken]
    | v6 text =>
      rw [text.readIpv4_eq_none, readIpv6_eq_some_iff.mpr text]
      rfl

theorem whole_eq_some_iff {α : Type} {read : List Char → Option (α × List Char)} {cs : List Char}
    {x : α} : whole read cs = some x ↔ read cs = some (x, []) := by
  unfold whole
  constructor
  · intro taken
    split at taken
    · rename_i read
      cases taken
      exact read
    · cases taken
  · intro read
    rw [read]

end Net

/-- The texts that are read as addresses are those of addresses. -/
theorem IpAddress.parse?_eq_some_iff {s : String} {ip : IpAddress} :
    parse? s = some ip ↔ Net.IpText s.toList ip := by
  rw [← Net.readIp_eq_some_iff, parse?, Net.whole_eq_some_iff]

end StartSignal
