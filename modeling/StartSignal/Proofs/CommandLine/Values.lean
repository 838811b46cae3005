/-
# StartSignal.Proofs.CommandLine.Values -- what can be said of all values that are collected

A level of a command line collects its values by putting them in their places, one after the
other.  What every place of a level keeps is therefore true of the values of each level that
is read to its end (`Grammar.Keeps.settled`), whatever the words are and in whatever order they
come.

Of a command that is accepted it follows that a ceiling and a concurrency that are given are
at least one.

Main result: `Invocation.parse_bounded`.
-/
import StartSignal.CommandLine.Command
import StartSignal.Proofs.Json.Ordered

namespace StartSignal.CommandLine

section Invariant

variable {σ : Type} {p : σ → Prop} {slot : Slot σ} {g : Grammar σ} {r t : Reading σ}

/-- To put a value in the place keeps a property of the values. -/
def Slot.Keeps (slot : Slot σ) (p : σ → Prop) : Prop :=
  ∀ raw v w, slot.set raw v = .ok w → p v → p w

/-- Every place of the level does. -/
structure Grammar.Keeps (g : Grammar σ) (p : σ → Prop) : Prop where
  options : ∀ slot ∈ g.options, slot.Keeps p
  places : ∀ slot ∈ g.places, slot.Keeps p

/-- The values so far have a property, and what is held back or still free keeps it. -/
structure Reading.Keeps (r : Reading σ) (p : σ → Prop) : Prop where
  values : p r.values
  pending : ∀ held, r.pending = some held → held.slot.Keeps p
  free : ∀ slot ∈ r.free, slot.Keeps p

namespace Reading.Keeps

theorem put (keeps : r.Keeps p) (kept : slot.Keeps p) {value : String}
    (ok : r.put slot value = .ok t) : t.Keeps p := by
  unfold Reading.put at ok
  split at ok
  · cases ok
  · obtain ⟨values, set, rfl⟩ := map_eq_ok ok
    exact ⟨kept value r.values values set keeps.values, keeps.pending, keeps.free⟩

theorem settle (keeps : r.Keeps p) (ok : r.settle = .ok t) : t.Keeps p := by
  unfold Reading.settle at ok
  split at ok
  · cases ok
    exact keeps
  · cases ok
  · rename_i slot value held
    have dropped : Reading.Keeps { r with pending := none } p :=
      ⟨keeps.values, nofun, keeps.free⟩
    exact dropped.put (keeps.pending _ held) ok

theorem hold (keeps : r.Keeps p) (kept : slot.Keeps p) {value : Option String}
    (ok : r.hold slot value = .ok t) : t.Keeps p := by
  obtain ⟨s, settled, rfl⟩ := map_eq_ok ok
  have keeps := keeps.settle settled
  refine ⟨keeps.values, ?_, keeps.free⟩
  rintro _ ⟨⟩
  exact kept

end Reading.Keeps

theorem Reading.not_ok_of_halt {h : Halt} (ok : r.halt h = .ok t) : False := by
  obtain ⟨s, -, halted⟩ := bind_eq_ok ok
  cases halted

theorem Grammar.not_ok_of_short {letter : Char} (ok : g.readShort r letter = .ok t) : False := by
  unfold Grammar.readShort at ok
  split at ok
  · exact Reading.not_ok_of_halt ok
  · cases ok

namespace Grammar.Keeps

theorem readLong (level : g.Keeps p) (keeps : r.Keeps p) {name : String}
    {value : Option String} (ok : g.readLong r name value = .ok t) : t.Keeps p := by
  unfold Grammar.readLong at ok
  split at ok
  · exact (Reading.not_ok_of_halt ok).elim
  · cases ok
  · split at ok
    · cases ok
    · rename_i slot found
      exact keeps.hold (level.options slot (List.mem_of_find?_eq_some found)) ok
    · rename_i slot v found
      obtain ⟨s, settled, put⟩ := bind_eq_ok ok
      exact (keeps.settle settled).put (level.options slot (List.mem_of_find?_eq_some found)) put

theorem readPlace (keeps : r.Keeps p) {divided : Bool} {word : String}
    (ok : g.readPlace r divided word = .ok t) : t.Keeps p := by
  unfold Grammar.readPlace at ok
  split at ok
  · rename_i slot free frees
    have kept : ∀ s ∈ slot :: free, s.Keeps p := frees ▸ keeps.free
    have shorter : Reading.Keeps { r with free } p :=
      ⟨keeps.values, keeps.pending, fun s member => kept s (List.mem_cons_of_mem _ member)⟩
    exact shorter.hold (kept slot List.mem_cons_self) ok
  · split at ok <;> cases ok

theorem readPlain (keeps : r.Keeps p) {word : String} (ok : g.readPlain r word = .ok t) :
    t.Keeps p := by
  unfold Grammar.readPlain at ok
  split at ok
  · rename_i slot held
    have kept := keeps.pending _ held
    cases ok
    refine ⟨keeps.values, ?_, keeps.free⟩
    rintro _ ⟨⟩
    exact kept
  · exact readPlace keeps ok

theorem readDivided (keeps : r.Keeps p) {words : List String}
    (ok : g.readDivided r words = .ok t) : t.Keeps p := by
  induction words generalizing r with
  | nil =>
    cases ok
    exact keeps
  | cons w ws ih =>
    obtain ⟨s, placed, rest⟩ := bind_eq_ok ok
    exact ih (readPlace keeps placed) rest

theorem readWords (level : g.Keeps p) (keeps : r.Keeps p) {words : List String}
    (ok : g.readWords r words = .ok t) : t.Keeps p := by
  induction words generalizing r with
  | nil =>
    cases ok
    exact keeps
  | cons w ws ih =>
    rw [Grammar.readWords] at ok
    split at ok
    · cases ok
      exact ⟨keeps.values, keeps.pending, keeps.free⟩
    · split at ok
      · exact readDivided keeps ok
      · obtain ⟨s, first, rest⟩ := bind_eq_ok ok
        exact ih (level.readLong keeps first) rest
      · obtain ⟨s, first, -⟩ := bind_eq_ok ok
        exact (Grammar.not_ok_of_short first).elim
      · obtain ⟨s, first, rest⟩ := bind_eq_ok ok
        exact ih (readPlain keeps first) rest

/-- What every place of a level keeps, and the first values have, the values have that are
collected in the end. -/
theorem settled (level : g.Keeps p) {values : σ} (first : p values) {words : List String}
    (read : g.read values words = .ok r) (settled : r.settle = .ok t) : p t.values := by
  have fresh : Reading.Keeps ⟨values, none, g.places, none⟩ p := ⟨first, nofun, level.places⟩
  exact ((level.readWords fresh read).settle settled).values

end Grammar.Keeps

end Invariant

/-! ## The places of the commands -/

theorem keeps_settingsPath {σ : Type} {p : σ → Prop} :
    (Slot.settingsPath : Slot (WithPath σ)).Keeps fun v => p v.values := by
  intro raw v w set had
  simp only [Slot.settingsPath] at set
  split at set <;> cases set
  exact had

theorem keeps_ofValue {σ α : Type} {p : σ → Prop} {name : String}
    {read : String → Except Halt α} {get : σ → Option α} {set : α → σ → σ}
    (kept : ∀ raw x, read raw = .ok x → ∀ v, p v → p (set x v)) :
    (Slot.ofValue name read get set).Keeps fun v => p v.values := by
  intro raw v w put had
  simp only [Slot.ofValue] at put
  obtain ⟨x, value, rfl⟩ := map_eq_ok put
  exact kept raw x value v.values had

/-- A number that is read is between the bounds. -/
theorem number_ok {w : Width} {low high n : Nat} {raw : String}
    (ok : number w low high raw = .ok n) : low ≤ n ∧ n ≤ high := by
  unfold number at ok
  split at ok
  · rename_i i found
    cases ok
    have within := (Option.filter_eq_some_iff.mp found).2
    simp only [decide_eq_true_eq] at within
    omega
  · cases ok

theorem ceilingNumber_ok {raw : String} {x : UInt32} (ok : ceilingNumber raw = .ok x) : 1 ≤ x := by
  obtain ⟨n, read, rfl⟩ := map_eq_ok ok
  obtain ⟨low, high⟩ := number_ok read
  have value : (UInt32.ofNat n).toNat = n :=
    UInt32.toNat_ofNat_of_lt' (Nat.lt_of_le_of_lt high (by decide))
  rw [UInt32.le_iff_toNat_le, value]
  exact low

theorem longNumber_ok {low : Nat} {raw : String} {x : UInt64} (ok : longNumber low raw = .ok x) :
    low ≤ x.toNat := by
  obtain ⟨n, read, rfl⟩ := map_eq_ok ok
  obtain ⟨least, high⟩ := number_ok read
  have value : (UInt64.ofNat n).toNat = n :=
    UInt64.toNat_ofNat_of_lt' (Nat.lt_of_le_of_lt high (by decide))
  rw [value]
  exact least

def ListenRequest.Bounded (r : ListenRequest) : Prop := ∀ n, r.ceiling = some n → 1 ≤ n

def DispatchOptions.Bounded (o : DispatchOptions) : Prop := ∀ n, o.concurrency = some n → 1 ≤ n

def DispatchRequest.Parts.Bounded (v : Parts) : Prop := v.options.Bounded

def Command.Bounded : Command → Prop
  | .listen request => request.Bounded
  | .dispatch request => request.options.Bounded

theorem ListenRequest.keeps_bounded :
    grammar.Keeps fun v : WithPath ListenRequest => v.values.Bounded := by
  constructor
  · simp only [grammar, List.forall_mem_cons]
    refine ⟨keeps_ofValue ?_, keeps_ofValue ?_, keeps_ofValue ?_, keeps_settingsPath,
      List.forall_mem_nil _⟩
    · exact fun raw x read v had => had
    · exact fun raw x read v had => had
    · rintro raw x read v had n ⟨⟩
      exact ceilingNumber_ok read
  · simp only [grammar, List.forall_mem_cons]
    exact ⟨keeps_ofValue fun raw x read v had => had, List.forall_mem_nil _⟩

theorem ListenRequest.parse_bounded {words : List String} {path : Option String}
    {r : ListenRequest} (ok : parse words = .ok (path, r)) : r.Bounded := by
  obtain ⟨reading, read, ok⟩ := bind_eq_ok ok
  obtain ⟨final, settled, same⟩ := bind_eq_ok ok
  cases same
  refine keeps_bounded.settled ?_ read settled
  intro n given
  cases given

theorem DispatchRequest.keeps_bounded :
    grammar.Keeps fun v : WithPath Parts => v.values.Bounded := by
  constructor
  · simp only [grammar, List.forall_mem_cons]
    refine ⟨keeps_ofValue ?_, keeps_ofValue ?_, keeps_ofValue ?_, keeps_settingsPath,
      List.forall_mem_nil _⟩
    · exact fun raw x read v had => had
    · rintro raw x read v had n ⟨⟩
      exact UInt64.le_iff_toNat_le.mpr (longNumber_ok read)
    · exact fun raw x read v had => had
  · simp only [grammar, List.forall_mem_cons]
    exact ⟨keeps_ofValue fun raw x read v had => had, keeps_ofValue fun raw x read v had => had,
      List.forall_mem_nil _⟩

theorem DispatchRequest.parse_bounded {words : List String} {path : Option String}
    {r : DispatchRequest} (ok : parse words = .ok (path, r)) : r.options.Bounded := by
  obtain ⟨reading, read, ok⟩ := bind_eq_ok ok
  obtain ⟨final, settled, ok⟩ := bind_eq_ok ok
  have nothing : Parts.Bounded {} := by
    intro n given
    cases given
  have bounded := keeps_bounded.settled nothing read settled
  split at ok
  · rename_i network hostIds options values
    cases ok
    rw [values] at bounded
    exact bounded
  · cases ok

/-- The numbers of a command that is accepted are not below their bounds. -/
theorem Invocation.parse_bounded {words : List String} {i : Invocation}
    (accepted : parse words = .ok i) : i.command.Bounded := by
  obtain ⟨top, -, accepted⟩ := bind_eq_ok accepted
  split at accepted
  · rename_i name rest called
    obtain ⟨⟨path, command⟩, parsed, accepted⟩ := bind_eq_ok accepted
    obtain ⟨final, -, same⟩ := bind_eq_ok accepted
    cases same
    unfold parseCommand at parsed
    split at parsed
    · obtain ⟨⟨_, request⟩, asked, same⟩ := map_eq_ok parsed
      cases same
      exact ListenRequest.parse_bounded asked
    · split at parsed
      · obtain ⟨⟨_, request⟩, asked, same⟩ := map_eq_ok parsed
        cases same
        exact DispatchRequest.parse_bounded asked
      · cases parsed
  · obtain ⟨final, -, same⟩ := bind_eq_ok accepted
    cases same

end StartSignal.CommandLine
