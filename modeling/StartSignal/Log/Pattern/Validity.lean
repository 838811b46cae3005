/-
# StartSignal.Log.Pattern.Validity -- which patterns can be used

A pattern that can be read may still be of no use.  Its parts must not be nested too
deeply, and no two groups may have one name.

The rest depends on the mode.  In Unicode mode, in which a pattern begins, neither the
shorthands nor letters in either case are available beyond ASCII, so they are refused
altogether.  Outside of it a pattern may name bytes, but must not match anything that
is no text: no set, nor any of the sets that it is made of, may reach beyond ASCII.

The boundaries of words are refused in Unicode mode as well, but only in a pattern that
has no other fault.
-/
import StartSignal.Log.Pattern.Parser

namespace StartSignal.Log

/-! ## Nesting -/

/-- How deeply the parts of a pattern may be nested. -/
def maxNesting : Nat := 250

mutual

def CharSet.nesting : CharSet → Nat
  | .empty | .member _ => 0
  | .nested _ s => s.nesting + 1
  | .union ss => nestings ss + 1
  | .combined _ s t => max s.nesting t.nesting + 1

def CharSet.nestings : List CharSet → Nat
  | [] => 0
  | s :: ss => max s.nesting (nestings ss)

end

mutual

def Pattern.nesting : Pattern → Nat
  | .change _ | .literal _ | .any | .anchor | .boundary | .shorthand _ | .sequence [] => 0
  | .set _ s => s.nesting + 1
  | .repeated p => p.nesting + 1
  | .group _ _ p => p.nesting + 1
  | .sequence ps => nestings ps + 1
  | .choice ps => nestings ps + 1

def Pattern.nestings : List Pattern → Nat
  | [] => 0
  | p :: ps => max p.nesting (nestings ps)

end

/-! ## Names -/

mutual

def Pattern.groupNames : Pattern → List (List Char)
  | .repeated p => p.groupNames
  | .group _ name p => name.toList ++ p.groupNames
  | .sequence ps | .choice ps => groupNamesOf ps
  | _ => []

def Pattern.groupNamesOf : List Pattern → List (List Char)
  | [] => []
  | p :: ps => p.groupNames ++ groupNamesOf ps

end

/-! ## Modes -/

/-- How a pattern is read at one place. -/
structure Mode where
  /-- Whether letters are taken in either case. -/
  insensitive : Bool
  unicode : Bool
  /-- Whether the boundary of a word has been met in Unicode mode. -/
  boundaryMet : Bool
deriving DecidableEq, Repr

def Mode.initial : Mode := ⟨false, true, false⟩

def Mode.after (m : Mode) (c : ModeChange) : Mode :=
  { m with
    insensitive := (c.state? 'i').getD m.insensitive
    unicode := (c.state? 'u').getD m.unicode }

/-! ## Sets -/

def Literal.isAscii (l : Literal) : Bool := l.char.toNat < 0x80

namespace SetMember

/-- Whether the member is a set of ASCII characters. -/
def isAscii : SetMember → Bool
  | .one l => l.isAscii
  | .range low high => low.isAscii && high.isAscii
  | .named negated => !negated
  | .shorthand negated => !negated

def isShorthand : SetMember → Bool
  | .shorthand _ => true
  | _ => false

end SetMember

namespace CharSet

mutual

def members : CharSet → List SetMember
  | .empty => []
  | .member m => [m]
  | .nested _ s => s.members
  | .union ss => membersOf ss
  | .combined _ s t => s.members ++ t.members

def membersOf : List CharSet → List SetMember
  | [] => []
  | s :: ss => s.members ++ membersOf ss

end

mutual

/-- Whether each step of making a set yields a set of ASCII characters.  A negated set holds
what is beyond ASCII, whatever the set itself is. -/
def isAscii : CharSet → Bool
  | .empty => true
  | .member m => m.isAscii
  | .nested negated s => !negated && s.isAscii
  | .union ss => areAscii ss
  | .combined _ s t => s.isAscii && t.isAscii

/-- Whether each step of making some sets yields a set of ASCII characters. -/
def areAscii : List CharSet → Bool
  | [] => true
  | s :: ss => s.isAscii && areAscii ss

end

/-- Whether a set between brackets can be used in a mode. -/
def isUsable (m : Mode) (negated : Bool) (s : CharSet) : Bool :=
  if m.unicode then
    if m.insensitive then s.members.isEmpty else s.members.all fun x => !x.isShorthand
  else (nested negated s).isAscii

end CharSet

/-! ## Patterns -/

def Literal.isUsable (m : Mode) (l : Literal) : Bool :=
  if m.unicode then !m.insensitive else l.isAscii || !l.asByte

mutual

/-- The mode after a pattern, if the pattern can be used in the mode before it. -/
def Pattern.pass? (m : Mode) : Pattern → Option Mode
  | .change c => some (m.after c)
  | .literal l => if l.isUsable m then some m else none
  | .any => if m.unicode then some m else none
  | .anchor => some m
  | .boundary => some { m with boundaryMet := m.boundaryMet || m.unicode }
  | .shorthand negated => if m.unicode || negated then none else some m
  | .set negated s => if s.isUsable m negated then some m else none
  | .repeated p => p.pass? m
  | .group c _ p =>
    match p.pass? (m.after c) with
    | some inner => some { m with boundaryMet := inner.boundaryMet }
    | none => none
  | .sequence ps => passAll? m ps
  | .choice ps => passAll? m ps

def Pattern.passAll? (m : Mode) : List Pattern → Option Mode
  | [] => some m
  | p :: ps =>
    match p.pass? m with
    | some m => passAll? m ps
    | none => none

end

inductive PatternError where
  | malformed
  /-- The boundaries of words are not available. -/
  | boundary
deriving DecidableEq, Repr

def PatternError.message : PatternError → String
  | .malformed => "error building NFA"
  | .boundary =>
    "unsupported regex feature for DFAs: cannot build DFAs for regexes with Unicode word " ++
      "boundaries; switch to ASCII word boundaries, or heuristically enable Unicode word " ++
      "boundaries or use a different regex engine"

/-- What is wrong with a text as a pattern, if anything is. -/
def Pattern.fault? (cs : List Char) : Option PatternError :=
  match parse? cs with
  | none => some .malformed
  | some p =>
    if maxNesting < p.nesting ∨ ¬ p.groupNames.Nodup then some .malformed
    else match p.pass? .initial with
      | none => some .malformed
      | some m => if m.boundaryMet then some .boundary else none

end StartSignal.Log
