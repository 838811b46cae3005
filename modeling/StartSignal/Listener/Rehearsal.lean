/-
# StartSignal.Listener.Rehearsal -- a session with a scripted controller

A rehearsal plays a script of steps against one session: a controller connects,
sends, and goes away; the session starts to run; its idle timeout passes; a
termination is requested.  Until the session runs, what the controller sends queues
up in its connection.  From then on every step takes full effect before the next
(`settle`), and a read takes at most 1024 bytes of what is queued.

A cancellation is looked at before anything else.  A connection that waits to be
accepted goes before an idle timeout that has passed.  Steps after the end of the
session are not taken.

The controller reaches the session through the host's loopback route.  On a host
without a route the step fails, and the rehearsal with it.
-/
import StartSignal.Listener.Session
import StartSignal.Net.Network

namespace StartSignal.Listener

inductive Step where
  | connect
  | send (bytes : List UInt8)
  /-- The controller closes its connection. -/
  | close
  /-- The controller closes its side of the connection. -/
  | shutdown
  /-- The controller drops its connection abruptly. -/
  | reset
  | cancel
  /-- The session starts to run. -/
  | run
  /-- The idle timeout passes. -/
  | expire
deriving DecidableEq, Repr

/-- What the controller will still be heard of, once its bytes are read. -/
inductive Parting where
  /-- It may say more. -/
  | none
  | closed
  | reset
deriving DecidableEq, Repr

structure Rehearsal where
  session : Session
  route : Route
  /-- The address the controller connects from. -/
  controller : SocketAddress
  running : Bool
  cancelled : Bool
  expired : Bool
  connected : Bool
  /-- What has been sent and not been read. -/
  queue : List UInt8
  parting : Parting

namespace Rehearsal

def start (session : Session) (route : Route) (controller : SocketAddress) : Rehearsal :=
  ⟨session, route, controller, false, false, false, false, [], .none⟩

def isOver (r : Rehearsal) : Bool := r.session.ending.isSome

/-- How the waits on the connection end, one after the other, until there is nothing more
to be heard. -/
def reads (r : Rehearsal) : List Read :=
  if r.cancelled then [.cancelled]
  else
    (Wire.slices r.queue).map (fun b => .received (.ofBytes b)) ++
      match r.parting with
      | .none => []
      | .closed => [.received .closed]
      | .reset => [.received (.failed ⟨.connectionReset⟩)]

/-- How the wait for a controller ends, if it ends now. -/
def wait? (r : Rehearsal) : Option Wait :=
  if r.cancelled then some .cancelled
  else if r.connected then some (.connected r.controller)
  else if r.expired then some .elapsed
  else none

/-- Let a running session take in everything there is. -/
def settle (r : Rehearsal) : Rehearsal :=
  if !r.running ∨ r.isOver then r
  else
    let session := match r.session.state, r.wait? with
      | .awaitingConnection, some wait => r.session.run wait r.reads
      | .awaitingConnection, none => r.session
      | _, _ => r.session.follow r.reads
    { r with session, queue := if r.connected then [] else r.queue }

/-- Whether the controller can still say something. -/
def canSpeak (r : Rehearsal) : Bool := r.connected && r.parting = .none

def step (r : Rehearsal) : Step → Except IoError Rehearsal
  | .connect =>
    match r.route with
    | .absent => .error .networkUnreachable
    | .loopback => .ok ({ r with connected := true }).settle
  | .send bytes =>
    .ok (if r.canSpeak then { r with queue := r.queue ++ bytes }.settle else r)
  | .close | .shutdown =>
    .ok (if r.canSpeak then { r with parting := .closed }.settle else r)
  | .reset => .ok (if r.canSpeak then { r with parting := .reset }.settle else r)
  | .cancel => .ok { r with cancelled := true }.settle
  | .run => .ok { r with running := true }.settle
  | .expire => .ok { r with expired := true }.settle

/-- Take steps until the session is over; the number of steps taken. -/
def steps : Rehearsal → List Step → Except IoError (Rehearsal × Nat)
  | r, [] => .ok (r, 0)
  | r, s :: ss =>
    if r.isOver then .ok (r, 0)
    else do
      let r ← r.step s
      let (r, n) ← steps r ss
      return (r, n + 1)

/-- End the rehearsal: a session that is not over is cancelled, and run if need be. -/
def finish (r : Rehearsal) : Rehearsal :=
  if r.isOver then r else { r with running := true, cancelled := true }.settle

def play (r : Rehearsal) (script : List Step) : Except IoError (Rehearsal × Nat) :=
  (r.steps script).map fun (r, n) => (r.finish, n)

end Rehearsal

end StartSignal.Listener
