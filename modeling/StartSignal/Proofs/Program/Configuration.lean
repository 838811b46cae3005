/-
# StartSignal.Proofs.Program.Configuration -- what a command is told in the end

What the command line sets counts more than the settings, and a concurrency that neither
names is the one of the host.  Flags are put over settings that have been checked already, so
that the bounds have to hold on either side: a ceiling and a concurrency are at least one,
whether they come from a flag (`Invocation.parse_bounded`) or from the settings
(`Settings.validate_eq_ok_iff`).

A listener is told nothing only if the host that counts is no IP address.

Main result: `configured`.
-/
import StartSignal.Proofs.CommandLine.Values
import StartSignal.Proofs.Net.Literal
import StartSignal.Proofs.Program.Silence

namespace StartSignal

namespace CommandLine

/-- What a listener is told: what the request sets, and else what has been loaded. -/
structure ListensAs (request : ListenRequest) (s : ListenerSettings) (config : Listener.Config) :
    Prop where
  host : Net.IpText (request.host.getD s.host).toList config.address.ip
  port : config.address.port = request.port.getD s.port
  scope : config.address.scope = 0
  idleTimeout : config.idleTimeout.nanos =
    (request.timeoutSecs.getD s.idleTimeoutSecs).toNat * 1000000000
  ceiling : config.ceiling = request.ceiling.getD s.messageCeiling

/-- What a dispatcher is told: what the request sets, else what has been loaded, and else what
the host suggests. -/
structure DispatchesAs (request : DispatchRequest) (s : DispatchSettings) (host : UInt64)
    (config : Dispatch.Config) : Prop where
  port : config.port = request.options.port.getD s.port
  concurrency : config.maxConcurrency =
    (request.options.concurrency.or s.maxConcurrency).getD host
  untimed : config.connectTimeout = none ↔
    request.options.connectTimeoutMs.getD s.connectTimeoutMs = 0
  timed : ∀ d, config.connectTimeout = some d →
    d.nanos = (request.options.connectTimeoutMs.getD s.connectTimeoutMs).toNat * 1000000

/-- A listener is told what the request and the settings say. -/
theorem ListenRequest.config_eq_ok_iff {r : ListenRequest} {s : ListenerSettings}
    {config : Listener.Config} : r.config s = .ok config ↔ ListensAs r s config := by
  unfold ListenRequest.config
  dsimp only
  constructor
  · intro told
    split at told
    · cases told
    · rename_i ip read
      cases told
      exact ⟨IpAddress.parse?_eq_some_iff.mp read, rfl, rfl, rfl, rfl⟩
  · rintro ⟨host, port, scope, idleTimeout, ceiling⟩
    have read : IpAddress.parse? (r.applyTo s).host = some config.address.ip :=
      IpAddress.parse?_eq_some_iff.mpr host
    obtain ⟨⟨ip, _, _⟩, ⟨_⟩, _⟩ := config
    dsimp only at port scope idleTimeout ceiling read
    rw [read, port, scope, idleTimeout, ceiling]
    rfl

/-- It is told nothing if the host that counts is no address. -/
theorem ListenRequest.config_eq_error_iff {r : ListenRequest} {s : ListenerSettings}
    {e : InvalidHost} : r.config s = .error e ↔
      e.host = r.host.getD s.host ∧ ∀ ip, ¬ Net.IpText (r.host.getD s.host).toList ip := by
  unfold ListenRequest.config
  dsimp only
  constructor
  · intro failed
    split at failed
    · rename_i unread
      cases failed
      refine ⟨rfl, fun ip text => ?_⟩
      have read : IpAddress.parse? (r.applyTo s).host = some ip :=
        IpAddress.parse?_eq_some_iff.mpr text
      rw [unread] at read
      cases read
    · cases failed
  · obtain ⟨host⟩ := e
    rintro ⟨rfl, other⟩
    split
    · rfl
    · rename_i ip read
      exact absurd (IpAddress.parse?_eq_some_iff.mp read) (other ip)

/-- A dispatcher is told what the request, the settings and the host say. -/
theorem DispatchRequest.config_spec (r : DispatchRequest) (s : DispatchSettings) (host : UInt64) :
    DispatchesAs r s host (r.config s host) := by
  constructor
  case port => rfl
  case concurrency => rfl
  case untimed =>
    show (if (r.applyTo s).connectTimeoutMs = 0 then none else some _) = none ↔ _
    split
    · rename_i zero
      exact ⟨fun _ => zero, fun _ => rfl⟩
    · rename_i some
      exact ⟨nofun, fun zero => absurd zero some⟩
  case timed =>
    intro d timed
    change (if (r.applyTo s).connectTimeoutMs = 0 then none else some _) = some d at timed
    split at timed
    · cases timed
    · cases timed
      rfl

end CommandLine

namespace Program

open CommandLine

variable {h : Host} {words : List String} {script : List Step} {i : Invocation} {s : Settings}

/-- What a run leaves once its command has been carried out. -/
def Ready.exit (r : Ready) (c : Conduct) : Exit :=
  ⟨c.code, r.log.shown (r.opening ++ c.records), r.log.format, r.complaints, c.attempts⟩

section Conduct

variable {r : Ready}

theorem conduct_listen {request : ListenRequest} {config : Listener.Config}
    (asked : r.command = .listen request) (told : request.config r.settings.listener = .ok config) :
    conduct h r script = listen h r.log config script := by
  unfold conduct
  rw [asked]
  dsimp only
  rw [told]

theorem conduct_hostless {request : ListenRequest} {e : InvalidHost}
    (asked : r.command = .listen request) (untold : request.config r.settings.listener = .error e) :
    conduct h r script = .ok ⟨[invalidHostRecord e], failureExitCode, []⟩ := by
  unfold conduct
  rw [asked]
  dsimp only
  rw [untold]

theorem conduct_dispatch {request : DispatchRequest} (asked : r.command = .dispatch request) :
    conduct h r script =
      .ok (dispatch h (request.config r.settings.dispatch h.concurrency) request) := by
  unfold conduct
  rw [asked]

end Conduct

theorem run_of_begins {r : Ready} (begins : Begins h words i r) :
    run h words script = (conduct h r script).map r.exit := by
  unfold run
  rw [begins.parsed]
  dsimp only
  rw [begins.prepared]
  rfl

def Loads (h : Host) (i : Invocation) (s : Settings) : Prop :=
  (Settings.load (settingsPath i h.home) (h.file (settingsPath i h.home)) h.lookup).1 = .ok s

theorem Loads.valid (loads : Loads h i s) :
    s.listener.messageCeiling ≠ 0 ∧ s.dispatch.maxConcurrency ≠ some 0 := by
  obtain ⟨-, -, -, valid⟩ := Settings.load_ok_iff.mp loads
  exact Settings.validate_eq_ok_iff.mp valid

/-- Once the settings are loaded, only the directives of the log can hold the program up. -/
theorem Loads.prepare_eq (loads : Loads h i s) :
    prepare i h.home h.file h.lookup = ready i.command s h.lookup := by
  unfold prepare
  dsimp only
  rw [loads]

/-- A program at the ready has the command that is asked for, and the settings that are
loaded. -/
theorem Begins.ready_of_loads {r : Ready} (begins : Begins h words i r) (loads : Loads h i s) :
    r.command = i.command ∧ r.settings = s := by
  have prepared := begins.prepared
  rw [loads.prepare_eq, ready] at prepared
  split at prepared <;> cases prepared
  exact ⟨rfl, rfl⟩

/-- What comes of a request to listen. -/
structure Listens (h : Host) (words : List String) (script : List Step) (i : Invocation)
    (request : ListenRequest) (s : ListenerSettings) : Prop where
  /-- There is something to tell the listener unless the host that counts is no address. -/
  tells : (∃ config, request.config s = .ok config) ↔
    ∃ ip, Net.IpText (request.host.getD s.host).toList ip
  /-- It is told what the request and the settings say, and a ceiling of one at least. -/
  told : ∀ config, request.config s = .ok config →
    ListensAs request s config ∧ 1 ≤ config.ceiling
  /-- The session that is begun is told this. -/
  used : ∀ r config, Begins h words i r → request.config s = .ok config →
    run h words script = (listen h r.log config script).map r.exit
  /-- Without it none is begun. -/
  unused : ∀ r e, Begins h words i r → request.config s = .error e →
    run h words script = .ok (r.exit ⟨[invalidHostRecord e], failureExitCode, []⟩)

/-- What comes of a request to dispatch. -/
structure Dispatches (h : Host) (words : List String) (script : List Step) (i : Invocation)
    (request : DispatchRequest) (s : DispatchSettings) (config : Dispatch.Config) : Prop where
  /-- The dispatcher is told what the request, the settings and the host say. -/
  told : DispatchesAs request s h.concurrency config
  /-- A host that suggests a concurrency at all gets one that is one at least. -/
  bounded : 1 ≤ h.concurrency → 1 ≤ config.maxConcurrency
  /-- The dispatch that is made is told this. -/
  used : ∀ r, Begins h words i r → run h words script = .ok (r.exit (dispatch h config request))

theorem listens {request : ListenRequest} (loads : Loads h i s) (bounded : request.Bounded)
    (asked : i.command = .listen request) : Listens h words script i request s.listener := by
  constructor
  case tells =>
    simp only [ListenRequest.config_eq_ok_iff]
    constructor
    · rintro ⟨config, as⟩
      exact ⟨_, as.host⟩
    · rintro ⟨ip, text⟩
      cases told : request.config s.listener with
      | ok config => exact ⟨config, ListenRequest.config_eq_ok_iff.mp told⟩
      | error e => exact absurd text ((ListenRequest.config_eq_error_iff.mp told).2 ip)
  case told =>
    intro config told
    have as := ListenRequest.config_eq_ok_iff.mp told
    refine ⟨as, ?_⟩
    rw [as.ceiling]
    cases given : request.ceiling with
    | some n => exact bounded n given
    | none =>
      have nonzero := UInt32.pos_iff_ne_zero.mpr loads.valid.1
      rw [UInt32.lt_iff_toNat_lt] at nonzero
      exact UInt32.le_iff_toNat_le.mpr nonzero
  case used =>
    intro r config begins told
    obtain ⟨command, rfl⟩ := begins.ready_of_loads loads
    rw [run_of_begins begins, conduct_listen (command.trans asked) told]
  case unused =>
    intro r e begins untold
    obtain ⟨command, rfl⟩ := begins.ready_of_loads loads
    rw [run_of_begins begins, conduct_hostless (command.trans asked) untold]
    rfl

theorem dispatches {request : DispatchRequest} (loads : Loads h i s)
    (bounded : request.options.Bounded) (asked : i.command = .dispatch request) :
    Dispatches h words script i request s.dispatch
      (request.config s.dispatch h.concurrency) := by
  have as := request.config_spec s.dispatch h.concurrency
  constructor
  case told => exact as
  case bounded =>
    intro some
    rw [as.concurrency]
    cases given : request.options.concurrency with
    | some n => exact bounded n given
    | none =>
      cases loaded : s.dispatch.maxConcurrency with
      | none => exact some
      | some n =>
        have nonzero : n ≠ 0 := by
          rintro rfl
          exact loads.valid.2 loaded
        have positive := UInt64.pos_iff_ne_zero.mpr nonzero
        rw [UInt64.lt_iff_toNat_lt] at positive
        exact UInt64.le_iff_toNat_le.mpr positive
  case used =>
    intro r begins
    obtain ⟨command, rfl⟩ := begins.ready_of_loads loads
    rw [run_of_begins begins, conduct_dispatch (command.trans asked)]
    rfl

/-- **What a command is told comes from the flags where they say something, else from the
settings that are loaded**, and is within the bounds of both, whatever the command line, the
file and the variables. -/
theorem configured (h : Host) (words : List String) (script : List Step) {i : Invocation}
    {s : Settings} (accepted : Invocation.parse words = .ok i) (loads : Loads h i s) :
    match i.command with
    | .listen request => Listens h words script i request s.listener
    | .dispatch request => ∃ config, Dispatches h words script i request s.dispatch config := by
  have bounded := Invocation.parse_bounded accepted
  cases asked : i.command with
  | listen request =>
    rw [asked] at bounded
    exact listens loads bounded asked
  | dispatch request =>
    rw [asked] at bounded
    exact ⟨_, dispatches loads bounded asked⟩

/-- An environment that tells a listener to bind what is no address. -/
def strayHost : Lookup := Function.update Settings.noVariables Override.listenHost (some "nowhere")

def straySettings : Settings :=
  { Settings.standard with listener := { Settings.standard.listener with host := "nowhere" } }

/-- What a listener is asked that gives up at once. -/
def briefRequest : ListenRequest := ⟨some 0, some "127.0.0.1", some 0, none⟩

theorem configured_strayHost :
    Invocation.parse listenBriefly = .ok ⟨none, .listen briefRequest⟩ ∧
      Loads (.detached strayHost) ⟨none, .listen briefRequest⟩ straySettings ∧
      ∃ config, briefRequest.config straySettings.listener = .ok config ∧
        ListensAs briefRequest straySettings.listener config ∧
        config.address.render = "127.0.0.1:0" ∧ 1 ≤ config.ceiling := by
  have parsed : Invocation.parse listenBriefly = .ok ⟨none, .listen briefRequest⟩ := by
    decide +kernel
  have loads : Loads (.detached strayHost) ⟨none, .listen briefRequest⟩ straySettings := by
    unfold Loads
    rfl
  have told : briefRequest.config straySettings.listener = .ok
      ⟨{ ip := .v4 ⟨127, 0, 0, 1⟩, port := 0 }, .ofSeconds 0, defaultCeiling⟩ := by
    decide +kernel
  have listens : Listens (.detached strayHost) listenBriefly [] ⟨none, .listen briefRequest⟩
    briefRequest straySettings.listener := configured _ listenBriefly [] parsed loads
  obtain ⟨as, bounded⟩ := listens.told _ told
  exact ⟨parsed, loads, _, told, as, by decide +kernel, bounded⟩

end Program

end StartSignal
