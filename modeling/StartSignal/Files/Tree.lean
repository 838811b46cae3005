/-
# StartSignal.Files.Tree -- paths, and what stands at them

A path is a run of bytes, which need not be text.  Slashes stand between its names, and
one in front makes it absolute.  Where a path is shown, bytes that are no text are
replaced.

A tree of files says what stands at a place, which is given by the names on the way from
the root.  A path is followed name by name, from the root or from the directory where the
program is.  A name leads on only from a directory, and so does the end of a path after a
slash.  A path that is too long leads nowhere.
-/
import StartSignal.Net.IoError
import StartSignal.Text.Basic
import StartSignal.Text.Utf8

namespace StartSignal

structure Path where
  bytes : List UInt8
deriving DecidableEq, Repr

namespace Path

def slash : UInt8 := 0x2f

def ofText (s : String) : Path := ⟨Text.Utf8.bytes s⟩

def render (p : Path) : String := Text.Utf8.text p.bytes

/-- A name below a path: nothing stands before it when the path is empty, and no second
slash after one. -/
def child (p : Path) (name : String) : Path :=
  if p.bytes = [] ∨ p.bytes.getLast? = some slash then ⟨p.bytes ++ Text.Utf8.bytes name⟩
  else ⟨p.bytes ++ slash :: Text.Utf8.bytes name⟩

def isAbsolute (p : Path) : Bool := p.bytes.head? = some slash

/-- The names between the slashes, empty ones included. -/
def names (p : Path) : List (List UInt8) := Text.splitOn slash p.bytes

end Path

inductive FileState where
  | absent
  /-- Something that cannot be read. -/
  | unreadable (e : IoError)
  | content (bytes : List UInt8)
deriving DecidableEq, Repr

def FileState.directory : FileState := .unreadable .isADirectory

/-- A place, by the names on the way to it from the root. -/
abbrev Place := List (List UInt8)

structure FileTree where
  /-- What stands below the root. -/
  entries : List (Place × FileState)
  /-- The directory where the program is. -/
  current : Place

/-- The most bytes of a path that leads anywhere. -/
def maxPathBytes : Nat := 4095

namespace FileTree

def standing (t : FileTree) (place : Place) : FileState :=
  if place = [] then .directory else (t.entries.lookup place).getD .absent

/-- The place that a name leads to from a directory. -/
def next (place : Place) (name : List UInt8) : Place :=
  if name = [] ∨ name = Text.Utf8.bytes "." then place
  else if name = Text.Utf8.bytes ".." then place.dropLast
  else place ++ [name]

def follow (t : FileTree) : Place → List (List UInt8) → FileState
  | place, [] => t.standing place
  | place, name :: names =>
    if t.standing place = .directory then t.follow (next place name) names else .absent

def find (t : FileTree) (p : Path) : FileState :=
  if maxPathBytes < p.bytes.length then .absent
  else t.follow (if p.isAbsolute then [] else t.current) p.names

end FileTree

end StartSignal
