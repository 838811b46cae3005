/-
# StartSignal.Net.Address -- internet addresses and their text

An IPv4 address is written as four decimal octets between points, without leading
zeros.  An IPv6 address is written as eight hexadecimal groups between colons, in
lower case; the longest run of two or more zero groups (the first of equally long
ones) is written as a double colon.  An IPv6 address that maps an IPv4 one keeps
the IPv4 text after `::ffff:`.

Reading takes the same texts and more: upper-case digits, up to four digits a group
with leading zeros, a double colon for any run of at least one zero group, and an
IPv4 text in place of the last two groups.

A socket address is an address and a port; the IPv6 form is bracketed and may carry
a numeric scope.
-/
import StartSignal.Text.Numeral
import StartSignal.Text.Quoted

namespace StartSignal

structure Ipv4 where
  a : UInt8
  b : UInt8
  c : UInt8
  d : UInt8
deriving DecidableEq, Repr

structure Ipv6 where
  groups : Vector UInt16 8
deriving DecidableEq, Repr

inductive IpAddress where
  | v4 (a : Ipv4)
  | v6 (a : Ipv6)
deriving DecidableEq, Repr

/-- An address, a port and, for IPv6, a scope (zero for none). -/
structure SocketAddress where
  ip : IpAddress
  port : UInt16
  scope : UInt32 := 0
deriving DecidableEq, Repr

namespace Net

/-! ## Readers

A reader takes a value off the front of a text and leaves the rest, or fails.
-/

def readChar (c : Char) : List Char → Option (List Char)
  | [] => none
  | d :: cs => if d = c then some cs else none

/-- The digits at the front of a text, by `value?`, and the rest. -/
def spanDigits (value? : Char → Option Nat) : List Char → List Nat × List Char
  | [] => ([], [])
  | c :: cs =>
    match value? c with
    | some d => let (ds, rest) := spanDigits value? cs; (d :: ds, rest)
    | none => ([], c :: cs)

/-- Take an octet: at most three decimal digits, no leading zero, below 256. -/
def readOctet (cs : List Char) : Option (UInt8 × List Char) :=
  match spanDigits Text.digitValue? cs with
  | ([], _) => none
  | (ds, rest) =>
    let n := Text.ofDigits ds
    if ds.length ≤ 3 ∧ ¬ (1 < ds.length ∧ ds.head? = some 0) ∧ n < 256 then
      some (n.toUInt8, rest)
    else none

def readIpv4 (cs : List Char) : Option (Ipv4 × List Char) := do
  let (a, cs) ← readOctet cs
  let (b, cs) ← readOctet (← readChar '.' cs)
  let (c, cs) ← readOctet (← readChar '.' cs)
  let (d, cs) ← readOctet (← readChar '.' cs)
  return (⟨a, b, c, d⟩, cs)

/-- Take a group: at most four hexadecimal digits. -/
def readGroup (cs : List Char) : Option (UInt16 × List Char) :=
  match spanDigits Text.hexValue? cs with
  | ([], _) => none
  | (ds, rest) =>
    if ds.length ≤ 4 then some ((ds.foldl (fun n d => 16 * n + d) 0).toUInt16, rest) else none

def Ipv4.asGroups (x : Ipv4) : List UInt16 :=
  [x.a.toUInt16 * 256 + x.b.toUInt16, x.c.toUInt16 * 256 + x.d.toUInt16]

/-- Take up to `room` groups between colons, the last two maybe as an IPv4 text.  Gives
the groups, whether an IPv4 text was among them, and the rest; `first` says that no
colon is due. -/
def readGroups (first : Bool) : Nat → List Char → List UInt16 × Bool × List Char
  | 0, cs => ([], false, cs)
  | room + 1, cs =>
    match if first then some cs else readChar ':' cs with
    | none => ([], false, cs)
    | some here =>
      match if room = 0 then none else readIpv4 here with
      | some (x, rest) => (Ipv4.asGroups x, true, rest)
      | none =>
        match readGroup here with
        | none => ([], false, cs)
        | some (g, rest) =>
          let (gs, dotted, rest) := readGroups false room rest
          (g :: gs, dotted, rest)

/-- Eight groups, `head` first, `tail` last and zeros between. -/
def padGroups (head tail : List UInt16) : Ipv6 :=
  ⟨Vector.ofFn fun i : Fin 8 =>
    if i.val < head.length then head.getD i.val 0
    else if i.val < 8 - tail.length then 0
    else tail.getD (i.val - (8 - tail.length)) 0⟩

def readIpv6 (cs : List Char) : Option (Ipv6 × List Char) :=
  let (head, dotted, rest) := readGroups true 8 cs
  if head.length = 8 then some (padGroups head [], rest)
  else if dotted then none
  else do
    let rest ← readChar ':' rest
    let rest ← readChar ':' rest
    let (tail, _, rest) := readGroups true (7 - head.length) rest
    return (padGroups head tail, rest)

/-- The value of a reader that takes the whole text. -/
def whole {α : Type} (read : List Char → Option (α × List Char)) (cs : List Char) : Option α :=
  match read cs with
  | some (x, []) => some x
  | _ => none

/-- Take an address of either family. -/
def readIp (cs : List Char) : Option (IpAddress × List Char) :=
  match readIpv4 cs with
  | some (a, rest) => some (.v4 a, rest)
  | none => (readIpv6 cs).map fun (a, rest) => (.v6 a, rest)

def readNumber (limit : Nat) (cs : List Char) : Option (Nat × List Char) :=
  match spanDigits Text.digitValue? cs with
  | ([], _) => none
  | (ds, rest) => let n := Text.ofDigits ds; if n < limit then some (n, rest) else none

/-- Take a colon and a port. -/
def readPort (cs : List Char) : Option (UInt16 × List Char) := do
  let (n, rest) ← readNumber UInt16.size (← readChar ':' cs)
  return (n.toUInt16, rest)

def readSocketAddress (cs : List Char) : Option (SocketAddress × List Char) :=
  match readIpv4 cs with
  | some (a, rest) => (readPort rest).map fun (port, rest) => ({ ip := .v4 a, port }, rest)
  | none => do
    let (a, rest) ← readIpv6 (← readChar '[' cs)
    let (scope, rest) ← match readChar '%' rest with
      | some rest => readNumber UInt32.size rest
      | none => some (0, rest)
    let (port, rest) ← readPort (← readChar ']' rest)
    return ({ ip := .v6 a, port, scope := scope.toUInt32 }, rest)

/-! ## Writers -/

def ipv4Chars (x : Ipv4) : List Char :=
  Text.decimal x.a.toNat ++ '.' :: Text.decimal x.b.toNat ++ '.' ::
    Text.decimal x.c.toNat ++ '.' :: Text.decimal x.d.toNat

/-- Groups between colons. -/
def groupChars (gs : List UInt16) : List Char :=
  [':'].intercalate (gs.map fun g => Text.hexadecimal g.toNat)

/-- The length of the run of zeros at the front. -/
def zeroRun (gs : List UInt16) : Nat := (gs.takeWhile (· = 0)).length

/-- Where the longest run of zero groups starts and how long it is, the first of equally
long ones. -/
def longestZeroRun : List UInt16 → Nat × Nat
  | [] => (0, 0)
  | g :: gs =>
    let (start, length) := longestZeroRun gs
    let here := zeroRun (g :: gs)
    if length ≤ here then (0, here) else (start + 1, length)

/-- The IPv4 address an IPv6 address maps, if any. -/
def mapped? (x : Ipv6) : Option Ipv4 :=
  match x.groups.toList with
  | [0, 0, 0, 0, 0, 0xffff, g, h] =>
    some ⟨(g / 256).toUInt8, g.toUInt8, (h / 256).toUInt8, h.toUInt8⟩
  | _ => none

def ipv6Chars (x : Ipv6) : List Char :=
  match mapped? x with
  | some y => [':', ':', 'f', 'f', 'f', 'f', ':'] ++ ipv4Chars y
  | none =>
    let gs := x.groups.toList
    let (start, length) := longestZeroRun gs
    if length < 2 then groupChars gs
    else groupChars (gs.take start) ++ [':', ':'] ++ groupChars (gs.drop (start + length))

end Net

/-! ## Kinds of addresses -/

/-- Whether the address stands for every address of a host. -/
def Ipv4.isUnspecified (x : Ipv4) : Bool := x = ⟨0, 0, 0, 0⟩

namespace Ipv6

/-- Whether the address stands for every address of a host. -/
def isUnspecified (x : Ipv6) : Bool := x.groups.toList.all (· = 0)

/-- Whether the address is one of many hosts: its first byte is all ones. -/
def isMulticast (x : Ipv6) : Bool := x.groups[0] / 0x100 = 0xff

/-- Whether the address is one of a single link: its first ten bits say so. -/
def isLinkLocal (x : Ipv6) : Bool := x.groups[0] / 0x40 = 0xfe80 / 0x40

end Ipv6

/-- Whether the address stands for every address of a host. -/
def IpAddress.isUnspecified : IpAddress → Bool
  | .v4 x => x.isUnspecified
  | .v6 x => x.isUnspecified

def IpAddress.render : IpAddress → String
  | .v4 a => String.ofList (Net.ipv4Chars a)
  | .v6 a => String.ofList (Net.ipv6Chars a)

def IpAddress.parse? (s : String) : Option IpAddress := Net.whole Net.readIp s.toList

def SocketAddress.render (a : SocketAddress) : String :=
  let port := ':' :: Text.decimal a.port.toNat
  String.ofList <|
    match a.ip with
    | .v4 x => Net.ipv4Chars x ++ port
    | .v6 x =>
      let scope := if a.scope = 0 then [] else '%' :: Text.decimal a.scope.toNat
      '[' :: Net.ipv6Chars x ++ scope ++ ']' :: port

def SocketAddress.parse? (s : String) : Option SocketAddress :=
  Net.whole Net.readSocketAddress s.toList

end StartSignal
