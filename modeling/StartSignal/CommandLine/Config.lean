/-
# StartSignal.CommandLine.Config -- requests over settings

What a request sets counts more than the settings.  A listener needs an address to
bind, so its host must be an IP address.  A connect timeout of zero milliseconds means
that there is none, and a concurrency that nobody sets is the one the host suggests.
-/
import StartSignal.CommandLine.Command
import StartSignal.Dispatch.Delivery
import StartSignal.Listener.Session

namespace StartSignal.CommandLine

structure InvalidHost where
  host : String
deriving DecidableEq, Repr

namespace InvalidHost

def message (e : InvalidHost) : String := "invalid listen host: " ++ e.host

/-- The error with what lies behind it. -/
def chain (e : InvalidHost) : String := e.message ++ ": invalid IP address syntax"

end InvalidHost

namespace ListenRequest

def applyTo (r : ListenRequest) (s : ListenerSettings) : ListenerSettings where
  host := r.host.getD s.host
  port := r.port.getD s.port
  idleTimeoutSecs := r.timeoutSecs.getD s.idleTimeoutSecs
  messageCeiling := r.ceiling.getD s.messageCeiling

def config (r : ListenRequest) (s : ListenerSettings) : Except InvalidHost Listener.Config :=
  let s := r.applyTo s
  match IpAddress.parse? s.host with
  | none => .error ⟨s.host⟩
  | some ip => .ok ⟨{ ip, port := s.port }, .ofSeconds s.idleTimeoutSecs.toNat, s.messageCeiling⟩

end ListenRequest

namespace DispatchRequest

def applyTo (r : DispatchRequest) (s : DispatchSettings) : DispatchSettings where
  port := r.options.port.getD s.port
  maxConcurrency := r.options.concurrency.or s.maxConcurrency
  connectTimeoutMs := r.options.connectTimeoutMs.getD s.connectTimeoutMs

/-- What the controller is told, on a host that suggests a concurrency. -/
def config (r : DispatchRequest) (s : DispatchSettings) (hostConcurrency : UInt64) :
    Dispatch.Config :=
  let s := r.applyTo s
  { port := s.port
    maxConcurrency := s.maxConcurrency.getD hostConcurrency
    connectTimeout :=
      if s.connectTimeoutMs = 0 then none else some (.ofMillis s.connectTimeoutMs.toNat) }

end DispatchRequest

end StartSignal.CommandLine
