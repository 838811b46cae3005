/-
# StartSignal.Log.Pattern.Parser -- reading a pattern

A pattern is read from left to right, and every group to its closing parenthesis.  A
repetition needs something before it, and may be followed by a question mark.  Counted
repetitions are not read: a pattern here stands between braces and so holds no closing
brace, without which a count has no end.

After an opening parenthesis a question mark begins either the name of the group, or a
change of how the pattern is read.
-/
import StartSignal.Log.Pattern.CharSet
import StartSignal.Text.Alphanumeric

namespace StartSignal.Log

namespace Pattern

inductive Opening where
  /-- A change on its own. -/
  | change (c : ModeChange)
  | group (c : ModeChange) (name : Option (List Char))

def modeLetters : List Char := ['i', 'm', 's', 'U', 'u', 'R', 'x']

def verboseLetter : Char := 'x'

/-- Read a change up to a colon or a closing parenthesis, which is left to be read.  No
letter comes twice, and a hyphen, of which there is at most one, is followed by letters. -/
def modeChange? (negated dangling : Bool) (m : ModeChange) :
    List Char → Option (ModeChange × List Char)
  | [] => none
  | c :: cs =>
    if c = ':' ∨ c = ')' then if dangling then none else some (m, c :: cs)
    else if c = '-' then if negated then none else modeChange? true true m cs
    else if c ∉ modeLetters ∨ c ∈ m.on ∨ c ∈ m.off then none
    else if negated then modeChange? negated false { m with off := c :: m.off } cs
    else modeChange? negated false { m with on := c :: m.on } cs

def isGroupName : List Char → Bool
  | [] => false
  | c :: cs =>
    (c = '_' || Text.isAlphabetic c) &&
      cs.all fun c => c ∈ ['_', '.', '[', ']'] || Text.isAlphanumeric c

/-- Read the name of a group up to a closing angle bracket. -/
def groupName? (cs : List Char) : Option (Opening × List Char) :=
  match cs.dropWhile (· ≠ '>') with
  | '>' :: rest =>
    let name := cs.takeWhile (· ≠ '>')
    if isGroupName name then some (.group .none (some name), rest) else none
  | _ => none

/-- Read what an opening parenthesis begins.  Looking ahead and behind is not for
patterns here. -/
def opening? (verbose : Bool) (cs : List Char) : Option (Opening × List Char) :=
  match skip verbose cs with
  | '?' :: '=' :: _ | '?' :: '!' :: _ | '?' :: '<' :: '=' :: _ | '?' :: '<' :: '!' :: _ => none
  | '?' :: 'P' :: '<' :: cs | '?' :: '<' :: cs => groupName? cs
  | '?' :: cs =>
    match modeChange? false false .none cs with
    | some (m, ':' :: cs) => some (.group m none, cs)
    | some (m, ')' :: cs) => if m = .none then none else some (.change m, cs)
    | _ => none
  | cs => some (.group .none none, cs)

/-- What is read so far of a group, latest first: the alternatives that are complete, and
the patterns of the one that is not. -/
structure Progress where
  choices : List (List Pattern)
  items : List Pattern

namespace Progress

def start : Progress := ⟨[], []⟩

def add (s : Progress) (p : Pattern) : Progress := { s with items := p :: s.items }

def next (s : Progress) : Progress := ⟨s.items :: s.choices, []⟩

/-- The latest pattern repeated, if there is one that can be. -/
def repeat? (s : Progress) : Option Progress :=
  match s.items with
  | [] | .change _ :: _ => none
  | p :: ps => some { s with items := .repeated p :: ps }

def pattern (s : Progress) : Pattern :=
  ofChoice ((s.next.choices.map fun items => ofSequence items.reverse).reverse)

end Progress

/-- Read one pattern that is neither a group nor a repetition. -/
def simple? (verbose : Bool) : List Char → Option (Pattern × List Char)
  | [] => none
  | '[' :: cs => CharSet.parse? verbose cs
  | '\\' :: cs => escape? verbose cs
  | '.' :: cs => some (.any, cs)
  | '^' :: cs => some (.anchor, cs)
  | '$' :: cs => some (.anchor, cs)
  | '\x7b' :: _ => none
  | c :: cs => some (.literal ⟨c, false⟩, cs)

/-- The text without a question mark at its start. -/
def skipQuestion : List Char → List Char
  | '?' :: cs => cs
  | cs => cs

/-- Read a pattern up to the end of its group, or of the text outside of any group.  Each
step reads a character, so `fuel` beyond their number is enough. -/
def read? : (fuel : Nat) → (verbose inGroup : Bool) → Progress → List Char →
    Option (Pattern × List Char)
  | 0, _, _, _, _ => none
  | fuel + 1, verbose, inGroup, s, cs =>
    match skip verbose cs with
    | [] => if inGroup then none else some (s.pattern, [])
    | c :: cs =>
      if c = ')' then if inGroup then some (s.pattern, cs) else none
      else if c = '|' then read? fuel verbose inGroup s.next cs
      else if c ∈ ['?', '*', '+'] then
        match s.repeat? with
        | some s => read? fuel verbose inGroup s (skipQuestion cs)
        | none => none
      else if c = '(' then
        match opening? verbose cs with
        | some (.change m, cs) =>
          let inner := (m.state? verboseLetter).getD verbose
          read? fuel inner inGroup (s.add (.change m)) cs
        | some (.group m name, cs) =>
          let inner := (m.state? verboseLetter).getD verbose
          match read? fuel inner true .start cs with
          | some (p, cs) => read? fuel verbose inGroup (s.add (.group m name p)) cs
          | none => none
        | none => none
      else match simple? verbose (c :: cs) with
        | some (p, cs) => read? fuel verbose inGroup (s.add p) cs
        | none => none

def parse? (cs : List Char) : Option Pattern :=
  (read? (cs.length + 1) false false .start cs).map (·.1)

end Pattern

end StartSignal.Log
