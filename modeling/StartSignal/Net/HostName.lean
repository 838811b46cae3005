/-
# StartSignal.Net.HostName -- host names that are addresses

Nobody needs to be asked about a host name that is an address.  Besides the strict texts,
an IPv4 address may be written in one to four parts between points: each but the last is
an octet, and the last fills the octets that are left.  A part is hexadecimal after `0x`,
octal after a zero, and decimal otherwise.  An IPv6 address may carry the number of its
scope after a percent sign; with anything else there it is a name that nobody knows.
-/
import StartSignal.Net.Address
import StartSignal.Net.IoError
import StartSignal.Text.Basic

namespace StartSignal

def Ipv4.ofNat (n : Nat) : Ipv4 :=
  ⟨UInt8.ofNat (n / 0x1000000), UInt8.ofNat (n / 0x10000), UInt8.ofNat (n / 0x100),
    UInt8.ofNat n⟩

namespace HostName

/-- The value of a digit in a base. -/
def digit? (base : Nat) (c : Char) : Option Nat := (Text.hexValue? c).filter (· < base)

/-- The number that a non-empty run of digits stands for in a base. -/
def inBase? (base : Nat) (cs : List Char) : Option Nat :=
  if cs = [] then none
  else (cs.mapM (digit? base)).map fun ds => ds.foldl (fun n d => base * n + d) 0

/-- The number that a part of an address stands for. -/
def part? : List Char → Option Nat
  | '0' :: 'x' :: cs | '0' :: 'X' :: cs => inBase? 16 cs
  | '0' :: cs => inBase? 8 ('0' :: cs)
  | cs => inBase? 10 cs

/-- The number that parts make in so many octets. -/
def ofParts? : (octets : Nat) → List Nat → Option Nat
  | _, [] | 0, _ => none
  | octets + 1, [n] => if n < Nat.pow 256 (octets + 1) then some n else none
  | octets + 1, n :: ns =>
    if n < 256 then (ofParts? octets ns).map (n * Nat.pow 256 octets + ·) else none

/-- The IPv4 address that a text in parts is. -/
def inParts? (cs : List Char) : Option Ipv4 :=
  (((Text.splitOn '.' cs).mapM part?).bind (ofParts? 4)).map Ipv4.ofNat

def scope? (cs : List Char) : Option UInt32 :=
  (Text.digits? cs).bind fun n => if n < UInt32.size then some n.toUInt32 else none

/-- The IPv6 address and the scope that a text is, if an address stands before a percent
sign. -/
def scoped? (cs : List Char) : Option (Except IoError (Ipv6 × UInt32)) :=
  match cs.dropWhile (· ≠ '%') with
  | '%' :: rest =>
    (Net.whole Net.readIpv6 (cs.takeWhile (· ≠ '%'))).map fun a =>
      match scope? rest with
      | some scope => .ok (a, scope)
      | none => .error .unknownName
  | _ => none

/-- The socket address that a host name stands for by itself, on a port. -/
def address? (host : String) (port : UInt16) : Option (Except IoError SocketAddress) :=
  match IpAddress.parse? host, inParts? host.toList with
  | some ip, _ => some (.ok { ip, port })
  | none, some a => some (.ok { ip := .v4 a, port })
  | none, none =>
    (scoped? host.toList).map (Except.map fun (a, scope) => { ip := .v6 a, port, scope })

end HostName

end StartSignal
