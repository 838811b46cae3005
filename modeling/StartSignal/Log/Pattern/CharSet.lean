/-
# StartSignal.Log.Pattern.CharSet -- sets of characters between brackets

A caret at the start negates a set.  Hyphens at its start, and a closing bracket that
comes first, stand for themselves.  Inside may be characters, ranges, shorthands, sets
with a name between colons, and other sets; two ampersands, hyphens or tildes combine
all that is on the left with what is on the right.  A set goes to its closing bracket.

Whether a hyphen makes a range is decided by the character after it.  In a verbose
pattern blanks before that character do not count, but a comment does: there its first
character decides.  The range itself ends with what follows the comment.
-/
import StartSignal.Log.Pattern.Escape

namespace StartSignal.Log

namespace CharSet

/-- The names that a set between colons may have. -/
def names : List String :=
  ["alnum", "alpha", "ascii", "blank", "cntrl", "digit", "graph", "lower", "print", "punct",
    "space", "upper", "word", "xdigit"]

/-- Read a set with a name, after its opening bracket. -/
def named? (cs : List Char) : Option (CharSet × List Char) :=
  match cs with
  | ':' :: cs =>
    let (negated, cs) := match cs with
      | '^' :: cs => (true, cs)
      | cs => (false, cs)
    match cs.dropWhile (· ≠ ':') with
    | ':' :: ']' :: rest =>
      if String.ofList (cs.takeWhile (· ≠ ':')) ∈ names then
        some (.member (.named negated), rest)
      else none
    | _ => none
  | _ => none

def ofChar (c : Char) : CharSet := .member (.one ⟨c, false⟩)

def item? (verbose : Bool) : List Char → Option (Pattern × List Char)
  | [] => none
  | '\\' :: cs => Pattern.escape? verbose cs
  | c :: cs => some (.literal ⟨c, false⟩, cs)

/-- The set that a character or a shorthand is. -/
def ofPattern? : Pattern → Option CharSet
  | .literal l => some (.member (.one l))
  | .shorthand negated => some (.member (.shorthand negated))
  | _ => none

/-- The range from one character to another that does not come before it. -/
def range? : Pattern → Pattern → Option CharSet
  | .literal low, .literal high =>
    if low.char ≤ high.char then some (.member (.range low high)) else none
  | _, _ => none

/-- The character that decides what a hyphen before `cs` is: the first that is no blank, or,
where a comment begins there, the first in the comment that is no blank. -/
def decisive? (verbose : Bool) (cs : List Char) : Option Char :=
  if verbose then
    match cs.dropWhile Text.isBlank with
    | '#' :: comment => (comment.dropWhile Text.isBlank).head?
    | rest => rest.head?
  else cs.head?

/-- Whether a hyphen before `cs` makes a range.  It does not where a closing bracket or
another hyphen decides. -/
def makesRange (verbose : Bool) (cs : List Char) : Bool :=
  decisive? verbose cs ∉ [some ']', some '-']

/-- Read a character, a shorthand or a range. -/
def member? (verbose : Bool) (cs : List Char) : Option (CharSet × List Char) := do
  let (first, cs) ← item? verbose cs
  match Pattern.skip verbose cs with
  | '-' :: rest =>
    if makesRange verbose rest then
      let (last, rest) ← item? verbose (Pattern.skip verbose rest)
      return (← range? first last, rest)
    else return (← ofPattern? first, '-' :: rest)
  | cs => return (← ofPattern? first, cs)

/-- Two of a kind that combine sets. -/
def operation? : List Char → Option (SetOperation × List Char)
  | '&' :: '&' :: cs => some (.intersection, cs)
  | '-' :: '-' :: cs => some (.difference, cs)
  | '~' :: '~' :: cs => some (.symmetricDifference, cs)
  | _ => none

/-- The set of what is on the left of an operation and of the members, latest first, on
its right. -/
def combine (left : Option (SetOperation × CharSet)) (members : List CharSet) : CharSet :=
  match left with
  | none => ofList members.reverse
  | some (op, s) => .combined op s (ofList members.reverse)

/-- Read the start of a set, after its opening bracket: whether it is negated. -/
def caret (verbose : Bool) (cs : List Char) : Bool × List Char :=
  match Pattern.skip verbose cs with
  | '^' :: cs => (true, cs)
  | cs => (false, cs)

/-- Read a set up to its closing bracket; `opening` as long as nothing but hyphens has been
read.  Each step reads a character, so `fuel` beyond their number is enough. -/
def read? (verbose : Bool) : (fuel : Nat) → (opening : Bool) →
    Option (SetOperation × CharSet) → List CharSet → List Char → Option (CharSet × List Char)
  | 0, _, _, _, _ => none
  | fuel + 1, opening, left, members, cs =>
    match Pattern.skip verbose cs with
    | [] => none
    | c :: cs =>
      if opening ∧ c = '-' then read? verbose fuel true left (ofChar c :: members) cs
      else if opening ∧ members.isEmpty ∧ c = ']' then
        read? verbose fuel false left [ofChar c] cs
      else if c = ']' then some (combine left members, cs)
      else if c = '[' then
        match named? cs with
        | some (s, cs) => read? verbose fuel false left (s :: members) cs
        | none =>
          let (negated, cs) := caret verbose cs
          match read? verbose fuel true none [] cs with
          | some (s, cs) => read? verbose fuel false left (.nested negated s :: members) cs
          | none => none
      else match operation? (c :: cs) with
        | some (op, cs) => read? verbose fuel false (some (op, combine left members)) [] cs
        | none =>
          match member? verbose (c :: cs) with
          | some (s, cs) => read? verbose fuel false left (s :: members) cs
          | none => none

/-- Read a set after its opening bracket, as a pattern. -/
def parse? (verbose : Bool) (cs : List Char) : Option (Pattern × List Char) :=
  let (negated, rest) := caret verbose cs
  (read? verbose (cs.length + 1) true none [] rest).map fun (s, rest) => (.set negated s, rest)

end CharSet

end StartSignal.Log
