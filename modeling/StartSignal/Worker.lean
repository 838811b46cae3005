/-
# StartSignal.Worker -- the workers of a fleet

The workers of a fleet share a network part; a host id tells them apart.  The host
of a worker is the two with a point between them.

Host ids are given as one text between commas.  Blanks around an id do not count,
and a segment that is empty or blank names no worker.
-/
import StartSignal.Text.Basic

namespace StartSignal

structure WorkerAddress where
  /-- The part shared by the fleet. -/
  network : String
  /-- The part of this worker. -/
  hostId : String
deriving DecidableEq, Repr

namespace WorkerAddress

/-- What stands between the two parts. -/
def delimiter : Char := '.'

def hostChars (a : WorkerAddress) : List Char :=
  a.network.toList ++ delimiter :: a.hostId.toList

def host (a : WorkerAddress) : String := String.ofList a.hostChars

/-- One address per host id, in the same order. -/
def forHosts (network : String) (hostIds : List String) : List WorkerAddress :=
  hostIds.map fun id => ⟨network, id⟩

end WorkerAddress

def hostIds (text : String) : List String :=
  ((Text.splitOn ',' text.toList).map Text.trim).filter (fun s => !s.isEmpty) |>.map
    String.ofList

end StartSignal
