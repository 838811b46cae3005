/-
# StartSignal.Proofs.Program.Silence -- warnings that nobody sees

A program loads its settings before it sets up its log.  The loading makes a warning of every
variable that is refused, and the warning is lost: no record that the log of a run shows is of
the loader, whatever the filter of the log lets through.  The run goes on as without the
variable (`run_unset`).

Main result: `refused_unheard`.
-/
import StartSignal.Proofs.Program.Provenance
import StartSignal.Proofs.Settings.Warnings

namespace StartSignal

open Function Log Override

theorem Elsewhere.not_warnsOf {r : Record} (elsewhere : Elsewhere r) (name : String) :
    ¬ WarnsOf name r := by
  intro warns
  have key := warns.key
  rw [elsewhere.unnamed] at key
  cases key

namespace Program

open CommandLine

variable {h : Host} {words : List String} {script : List Step} {name : String}

/-! ## Without the variable -/

theorem prepare_unset {lookup : Lookup} (refused : Refused lookup name) (i : Invocation)
    (home : Option Path) (file : Path → FileState) :
    prepare i home file (update lookup name none) = prepare i home file lookup := by
  have free : filterVariable ∉ refusable := by decide
  unfold prepare
  dsimp only
  rw [Settings.load_unset refused]
  split
  · rfl
  · unfold ready
    rw [unset_other refused free]

/-- A run is what it is without a variable that is refused. -/
theorem run_unset (refused : Refused h.lookup name) :
    run { h with lookup := update h.lookup name none } words script = run h words script := by
  unfold run
  split
  · rfl
  · -- Once the program is ready, it looks at no variable.
    dsimp only
    rw [prepare_unset refused]
    rfl

/-! ## Runs that begin their command -/

/-- A run gets as far as its command. -/
structure Begins (h : Host) (words : List String) (i : Invocation) (r : Ready) : Prop where
  parsed : Invocation.parse words = .ok i
  prepared : prepare i h.home h.file h.lookup = .ok r

/-- What a program reports of the loading of its settings. -/
def loadingLog (h : Host) (i : Invocation) : List Record :=
  (Settings.load (settingsPath i h.home) (h.file (settingsPath i h.home)) h.lookup).2

theorem Begins.exists_settings {i : Invocation} {r : Ready} (begins : Begins h words i r) :
    ∃ s, Settings.ofFile (h.file (settingsPath i h.home)) = .ok s := by
  have prepared := begins.prepared
  unfold prepare at prepared
  dsimp only at prepared
  split at prepared
  · cases prepared
  · rename_i loaded
    obtain ⟨s, made, -⟩ := Settings.load_ok_iff.mp loaded
    exact ⟨s, made⟩

/-! ## A port that there is not -/

/-- A host without files and without a route, where every address can be bound. -/
def Host.detached (lookup : Lookup) : Host where
  lookup := lookup
  home := none
  file _ := .absent
  bind a := .listening a
  network := .isolated
  route := .absent
  controller := { ip := .v4 ⟨127, 0, 0, 1⟩, port := 40000 }
  concurrency := 1

/-- An environment whose only variable names a port that there is not. -/
def farPort : Lookup := update Settings.noVariables listenPort (some "99999")

/-- The command line of a listener that gives up at once. -/
def listenBriefly : List String := ["listen", "0", "--host", "127.0.0.1", "--port", "0"]

theorem refused_farPort : Refused farPort listenPort := by
  have ranged : (listenPort, 1, 65535) ∈ ranges := by decide
  exact .of_number? (w := .u16) ranged rfl (by decide) (update_self _ _ _) (by decide)

theorem exists_ok_of_map {ε α β : Type} {x : Except ε α} {f : α → β} {y : β}
    (seen : x.toOption.map f = some y) : ∃ a, x = .ok a ∧ f a = y := by
  cases x with
  | error e => cases seen
  | ok a => exact ⟨a, rfl, Option.some.inj seen⟩

theorem begins_listenBriefly : ∃ i r, Begins (.detached farPort) listenBriefly i r ∧
    r.log.filter = ⟨[⟨none, false, none, some .info⟩]⟩ := by
  have parsed : Invocation.parse listenBriefly =
      .ok ⟨none, .listen ⟨some 0, some "127.0.0.1", some 0, none⟩⟩ := by decide +kernel
  have prepared : (prepare ⟨none, .listen ⟨some 0, some "127.0.0.1", some 0, none⟩⟩ none
      (fun _ => .absent) farPort).toOption.map (fun r => r.log.filter) =
        some ⟨[⟨none, false, none, some .info⟩]⟩ := by decide +kernel
  obtain ⟨r, prepared, filter⟩ := exists_ok_of_map prepared
  exact ⟨_, r, ⟨parsed, prepared⟩, filter⟩

theorem ends_listenBriefly : ∃ exit, run (.detached farPort) listenBriefly [] = .ok exit ∧
    exit.code = 0 := by
  apply exists_ok_of_map
  decide +kernel

/-! ## Warnings that would be shown -/

/-- A filter shows every warning of the program. -/
def ShowsWarnings (f : Filter) : Prop :=
  ∀ r : Record, r.level = .warn → "startgate".toList <+: r.target.toList → f.shows r = true

theorem showsWarnings_info : ShowsWarnings ⟨[⟨none, false, none, some .info⟩]⟩ := by
  intro r warns _
  simp [Filter.shows, Filter.governing?, Directive.appliesTo, Directive.isPlain, warns, Level.rank]

/-- A run that begins its command shows a warning of every variable that is refused, if its
log shows warnings. -/
def Outspoken (h : Host) (words : List String) (script : List Step) : Prop :=
  ∀ i r exit, Begins h words i r → ShowsWarnings r.log.filter → run h words script = .ok exit →
    ∀ name, Refused h.lookup name → ∃ record ∈ exit.records, WarnsOf name record

/-- **A program that reads a port out of range from its environment says nothing of it.** -/
theorem farPort_not_outspoken : ¬ Outspoken (.detached farPort) listenBriefly [] := by
  intro outspoken
  obtain ⟨i, r, begins, filter⟩ := begins_listenBriefly
  obtain ⟨exit, ran, -⟩ := ends_listenBriefly
  have shows : ShowsWarnings r.log.filter := by
    rw [filter]
    exact showsWarnings_info
  obtain ⟨record, shown, warns⟩ := outspoken i r exit begins shows ran listenPort refused_farPort
  exact (elsewhere_run ran record shown).not_warnsOf listenPort warns

/-! ## Main result -/

/-- What comes of a variable that is refused. -/
structure Unheard (h : Host) (words : List String) (script : List Step) (name : String) :
    Prop where
  /-- The loading of the settings has warned of it when the command is begun. -/
  warned : ∀ i r, Begins h words i r → ∃ record ∈ loadingLog h i, WarnsOf name record
  /-- The log shows nothing that the loading reports, nor any warning of a variable. -/
  unseen : ∀ exit, run h words script = .ok exit → ∀ record ∈ exit.records,
    record.target ≠ Source.loader.target ∧ ∀ other, ¬ WarnsOf other record
  /-- The run is as it would be without it. -/
  unset : run { h with lookup := update h.lookup name none } words script = run h words script

/-- **A variable that is refused is warned of where nobody hears it.** -/
theorem refused_unheard (h : Host) (words : List String) (script : List Step)
    (refused : Refused h.lookup name) : Unheard h words script name := by
  constructor
  case warned =>
    intro i r begins
    obtain ⟨s, made⟩ := begins.exists_settings
    exact Settings.load_warns refused made
  case unseen =>
    intro exit ran record shown
    have elsewhere := elsewhere_run ran record shown
    exact ⟨elsewhere.target, elsewhere.not_warnsOf⟩
  case unset => exact run_unset refused

theorem refused_unheard_farPort : Refused farPort listenPort ∧ ∃ i r exit,
    Begins (.detached farPort) listenBriefly i r ∧
      run (.detached farPort) listenBriefly [] = .ok exit ∧
      (∃ record ∈ loadingLog (.detached farPort) i, WarnsOf listenPort record) ∧
      (∀ record ∈ exit.records, ¬ WarnsOf listenPort record) ∧
      run (.detached (update farPort listenPort none)) listenBriefly [] = .ok exit := by
  have unheard := refused_unheard (.detached farPort) listenBriefly [] refused_farPort
  obtain ⟨i, r, begins, -⟩ := begins_listenBriefly
  obtain ⟨exit, ran, -⟩ := ends_listenBriefly
  refine ⟨refused_farPort, i, r, exit, begins, ran, unheard.warned i r begins, ?_, ?_⟩
  · intro record shown
    exact (unheard.unseen exit ran record shown).2 listenPort
  · exact unheard.unset.trans ran

end Program

end StartSignal
