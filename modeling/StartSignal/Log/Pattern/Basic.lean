/-
# StartSignal.Log.Pattern.Basic -- patterns for the value of a field

A pattern is a regular expression: characters and sets of characters, repeated, one
after the other, and one of several.  A group may change how the pattern is read
inside it, and a change may stand on its own for the rest of its group.

Only what decides whether a pattern can be used is kept: of a shorthand such as `\d`
and of a set named between colons, whether it is negated, but not which it is, and of
a repetition, what is repeated.
-/

namespace StartSignal.Log

/-- A character that stands for itself. -/
structure Literal where
  char : Char
  /-- Whether two hexadecimal digits were written for it. -/
  asByte : Bool
deriving DecidableEq, Repr

/-- What a set of characters is made of. -/
inductive SetMember where
  | one (l : Literal)
  | range (low high : Literal)
  /-- A set of ASCII characters with a name, or all characters but those. -/
  | named (negated : Bool)
  /-- The digits, the blanks or the characters of words, or all but those. -/
  | shorthand (negated : Bool)
deriving DecidableEq, Repr

/-- How two sets make a third. -/
inductive SetOperation where
  | intersection
  | difference
  | symmetricDifference
deriving DecidableEq, Repr

inductive CharSet where
  | empty
  | member (m : SetMember)
  | nested (negated : Bool) (s : CharSet)
  | union (ss : List CharSet)
  | combined (op : SetOperation) (s t : CharSet)

/-- A change of how a pattern is read: the letters of what is turned on and off. -/
structure ModeChange where
  on : List Char
  off : List Char
deriving DecidableEq, Repr

/-- What a letter is changed to, if it is. -/
def ModeChange.state? (c : ModeChange) (letter : Char) : Option Bool :=
  if letter ∈ c.on then some true else if letter ∈ c.off then some false else none

def ModeChange.none : ModeChange := ⟨[], []⟩

inductive Pattern where
  | change (c : ModeChange)
  | literal (l : Literal)
  /-- Any character. -/
  | any
  /-- The beginning or the end. -/
  | anchor
  /-- Where a word begins or ends, or where none does. -/
  | boundary
  | shorthand (negated : Bool)
  | set (negated : Bool) (s : CharSet)
  | repeated (p : Pattern)
  | group (c : ModeChange) (name : Option (List Char)) (p : Pattern)
  | sequence (ps : List Pattern)
  | choice (ps : List Pattern)

/-- The set that holds what each of some sets does. -/
def CharSet.ofList : List CharSet → CharSet
  | [] => .empty
  | [s] => s
  | ss => .union ss

/-- The pattern of some patterns one after the other. -/
def Pattern.ofSequence : List Pattern → Pattern
  | [p] => p
  | ps => .sequence ps

/-- The pattern of one of some patterns. -/
def Pattern.ofChoice : List Pattern → Pattern
  | [p] => p
  | ps => .choice ps

end StartSignal.Log
