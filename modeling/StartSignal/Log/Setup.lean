/-
# StartSignal.Log.Setup -- the log of a running program

A program shows the records that its filter lets through, in its format.  The filter
is the one that a variable of the environment holds, if that is a filter; otherwise
it is built from the configuration, and what is no directive there is complained of
and left out.  A directive that cannot be cut into its parts brings the program down,
wherever it stands.
-/
import StartSignal.Log.Filter
import StartSignal.Log.Render

namespace StartSignal.Log

def filterVariable : String := "RUST_LOG"

structure Setup where
  filter : Filter
  format : Format
deriving DecidableEq, Repr

namespace Setup

/-- What is complained about a text that is no directive. -/
def complaint (bad : String × DirectiveError) : String :=
  "ignoring `" ++ bad.1 ++ "`: " ++ bad.2.message

/-- The log of a configuration, and what is complained of; `none` if a directive is
torn. -/
def ofFilterText (c : Config) : Option (Setup × List String) :=
  let (filter, bad) := Filter.parseLenient c.filterText
  if bad.any (·.2 = .torn) then none else some (⟨filter, c.format⟩, bad.map complaint)

/-- The log of a configuration under the value of the variable, if it has one, and what is
complained of; `none` if a directive is torn. -/
def ofConfig (c : Config) (stated : Option String) : Option (Setup × List String) :=
  match stated.map Filter.parse with
  | some (.ok filter) => some (⟨filter, c.format⟩, [])
  | some (.error .torn) => none
  | _ => ofFilterText c

def shown (s : Setup) (rs : List Record) : List Record := rs.filter s.filter.shows

def lines (s : Setup) (rs : List Record) : List Line := (s.shown rs).map s.format.line

end Setup

end StartSignal.Log
