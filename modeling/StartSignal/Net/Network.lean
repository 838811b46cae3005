/-
# StartSignal.Net.Network -- what attempts to connect come to

A network is given by what it does: the addresses a name resolves to, unless it is an
address itself, and how an attempt to connect to an address ends.  An attempt is answered,
refused with a failure, or met with silence; an answered attempt gives a place to write to.

`Network.staged` sets up addresses of this host on one port: some accept, some
refuse, and some stay silent because their queues have been filled by connections
made beforehand.

On a host none of whose interfaces is up (`Detached`) there is no route to anywhere, not even
to the host itself, so every attempt fails at once, those of the setting up included.  Its
sockets can be bound to any IPv4 address all the same, since it has none to compare with.  Of
the IPv6 addresses it can bind the unspecified one and those that map an IPv4 address.  An
address of a single link is of no use without a scope, and no listener binds an address of many
hosts.
-/
import StartSignal.Net.HostName
import StartSignal.Wire.Writing

namespace StartSignal

namespace Detached

def connectFailure (a : SocketAddress) : IoError :=
  match a.ip with
  | .v4 _ => .networkUnreachable
  | .v6 x => if x.isLinkLocal ∧ a.scope = 0 then .invalidArgument else .networkUnreachable

/-- How binding an IPv6 address fails, if it does. -/
def bindFailure6? (x : Ipv6) : Option IoError :=
  if x.isUnspecified ∨ (Net.mapped? x).isSome then none
  else if x.isMulticast ∨ x.isLinkLocal then some .invalidArgument
  else some .addressNotAvailable

/-- How binding an address for a listener fails, if it does. -/
def bindFailure? : IpAddress → Option IoError
  | .v4 _ => none
  | .v6 x => bindFailure6? x

end Detached

/-- Whether connections on this host get anywhere. -/
inductive Route where
  /-- The addresses of this host can be reached. -/
  | loopback
  /-- No address can be reached; every attempt fails at once. -/
  | absent
deriving DecidableEq, Repr

inductive Answer where
  /-- A connection that can be written to. -/
  | established (sink : Wire.Sink)
  | failed (e : IoError)
  /-- Nothing comes back. -/
  | silent
deriving DecidableEq, Repr

/-- The IPv4 address that an address reaches, if it maps one; else the address. -/
def IpAddress.reached : IpAddress → IpAddress
  | .v4 a => .v4 a
  | .v6 a =>
    match Net.mapped? a with
    | some b => .v4 b
    | none => .v6 a

structure Network where
  /-- How an attempt to connect to an address ends. -/
  answer : SocketAddress → Answer
  /-- The addresses of a name that is not an address itself. -/
  lookup : String → Except IoError (List IpAddress)

namespace Network

/-- The names of a host that cannot ask anybody about them. -/
def lookupNothing (_ : String) : Except IoError (List IpAddress) :=
  .error ⟨.other,
    some "failed to lookup address information: Temporary failure in name resolution"⟩

def isolated : Network := ⟨fun a => .failed (Detached.connectFailure a), lookupNothing⟩

/-- The addresses of this host: `up` accept, `silent` say nothing, all others refuse. -/
def loopback (up silent : List IpAddress) : Network where
  answer a :=
    if a.ip.reached ∈ up then .established .unlimited
    else if a.ip.reached ∈ silent then .silent
    else .failed .connectionRefused
  lookup := lookupNothing

/-- Set up the addresses of this host. -/
def staged (route : Route) (up silent : List IpAddress) : Except IoError Network :=
  match route with
  | .loopback => .ok (loopback up silent)
  | .absent =>
    match (up ++ silent).findSome? Detached.bindFailure? with
    | some e => .error e
    | none => if silent.isEmpty then .ok isolated else .error .networkUnreachable

/-- The socket addresses of a host on a port: a name that is an address stands for itself,
and any other must be free of NUL. -/
def resolve (n : Network) (host : String) (port : UInt16) : Except IoError (List SocketAddress) :=
  if '\x00' ∈ host.toList then .error .nulInName
  else match HostName.address? host port with
    | some found => found.map ([·])
    | none => (n.lookup host).map (·.map fun ip => { ip, port })

end Network

end StartSignal
