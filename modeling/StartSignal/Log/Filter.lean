/-
# StartSignal.Log.Filter -- which records are shown

A filter is a list of directives between commas.  A record obeys the most particular of
the directives that speak about it: the one whose target is the longest that its own
target starts with, and among those for one target the one that asks for a field, of
several the one whose field comes last in the order of text.  Of several that are alike
in this the last counts.  A directive without a target is the last resort.  A record
that no directive speaks about is not shown.

A directive may also name a span, or ask for the value of a field.  No record here is
made inside a span, and the values of fields are compared inside of spans only; so such
a directive shows nothing.
-/
import StartSignal.Log.Directive

namespace StartSignal.Log

structure Filter where
  directives : List Directive
deriving DecidableEq, Repr

namespace Filter

/-- The texts of the directives in a filter text. -/
def directiveTexts (text : String) : List String :=
  ((Text.splitOn ',' text.toList).filter fun p => !p.isEmpty).map String.ofList

/-- The filter a text is; the first bad directive makes the text as a whole no filter. -/
def parse (text : String) : Except DirectiveError Filter :=
  ((directiveTexts text).mapM Directive.parse).map Filter.mk

/-- The filter of the good directives in a text, and the bad ones with what is wrong. -/
def parseLenient (text : String) : Filter × List (String × DirectiveError) :=
  (directiveTexts text).foldr
    (fun t (f, bad) => match Directive.parse t with
      | .ok d => (⟨d :: f.directives⟩, bad)
      | .error e => (f, (t, e) :: bad))
    (⟨[]⟩, [])

def governing? (f : Filter) (r : Record) : Option Directive :=
  (f.directives.filter fun d => d.appliesTo r).foldl
    (fun best d => match best with
      | none => some d
      | some b => if b.yieldsTo d then some d else some b)
    none

def shows (f : Filter) (r : Record) : Bool :=
  match (f.governing? r).bind (·.level) with
  | some level => r.level.rank ≤ level.rank
  | none => false

end Filter

end StartSignal.Log
