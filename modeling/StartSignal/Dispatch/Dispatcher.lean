/-
# StartSignal.Dispatch.Dispatcher -- the start signal to a whole fleet

Every host id is attempted exactly once, whatever comes of the others, and the report
holds one outcome per host id in their order.  At most `maxConcurrency` attempts are
under way at one time, and always at least one may be.  A limit that the gate for
attempts cannot hold ends the program before the first attempt.

The records of the attempts come in the order in which they end, which is for the
host to choose; here they end in the order of the host ids.  `Dispatch.Schedule` holds
all orders.
-/
import StartSignal.Dispatch.Delivery
import StartSignal.Log.Record

namespace StartSignal.Dispatch

open Log

/-- The most attempts at one time that the gate for attempts can hold. -/
def maxPermits : Nat := 2305843009213693951

/-- The number of attempts allowed at one time. -/
def Config.concurrency (c : Config) : Nat := max c.maxConcurrency.toNat 1

def attemptRecord (address : WorkerAddress) : Except Error SocketAddress → Record
  | .ok target =>
    Source.dispatcher.record .info "start signal sent"
      [("address", .shown address.host), ("target", .shown target.render)]
  | .error e =>
    Source.dispatcher.record .warn "start signal not delivered"
      [("address", .shown address.host), ("error", .shown e.message),
       ("error_kind", .quoted e.kind)]

def emptyRecord (network : String) : Record :=
  Source.dispatcher.record .warn "no worker addresses to dispatch to"
    [("prefix", .quoted network)]

def openingRecord (config : Config) (workers : Nat) : Record :=
  Source.dispatcher.record .info "sending start signal"
    [("workers", .number workers), ("port", .number config.port.toNat),
     ("concurrency", .number config.concurrency)]

def closingRecord (r : Report) : Record :=
  Source.dispatcher.record .info "dispatch complete"
    [("sent", .number r.succeeded), ("failed", .number r.failed), ("total", .number r.length)]

structure Run where
  log : List Record
  /-- The report; `none` when the limit on attempts ended the program. -/
  report : Option Report
  /-- The attempts, in the order of the host ids. -/
  attempts : List Attempt

def outcomes (addresses : List WorkerAddress) (attempts : List Attempt) : List Outcome :=
  List.zipWith (fun address attempt => ⟨address, attempt.result⟩) addresses attempts

def dispatch (n : Network) (config : Config) (network : String) (hostIds : List String) : Run :=
  let addresses := WorkerAddress.forHosts network hostIds
  if addresses.isEmpty then ⟨[emptyRecord network], some ⟨[]⟩, []⟩
  else
    let opening := openingRecord config addresses.length
    if maxPermits < config.concurrency then ⟨[opening], none, []⟩
    else
      let attempts := addresses.map (deliver n config)
      let report : Report := ⟨outcomes addresses attempts⟩
      ⟨opening :: report.outcomes.map (fun o => attemptRecord o.address o.result) ++
          [closingRecord report],
        some report, attempts⟩

/-- The texts an address has received, one for each connection made to it. -/
def received (attempts : List Attempt) (ip : IpAddress) : List String :=
  (attempts.filterMap Attempt.transmission).filterMap fun (target, bytes) =>
    if target = ip then some (Text.Utf8.text bytes) else none

end StartSignal.Dispatch
