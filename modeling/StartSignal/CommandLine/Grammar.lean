/-
# StartSignal.CommandLine.Grammar -- reading one level of a command line

A command line is read level by level: the options of the program, the name of a
command, and then the options and arguments of that command.  A level (`Grammar`) has
options, which are written `--name value` or `--name=value`, arguments that go by
their place, and names of commands, the first of which ends the level.  Every level
answers `-h` and `--help`, and the first one also `-V` and `--version`.

A value is checked late: an option whose value stands in an argument of its own, and
an argument that goes by its place, are held back (`Pending`) until something else is
met or the level ends.  So a fault in the word after a bad value is the one that is
reported, if that word alone is already wrong.

After `--` every word is an argument that goes by its place.
-/

namespace StartSignal.CommandLine

/-- Why a command line leads to no command. -/
inductive Halt where
  /-- Help is asked for. -/
  | help
  /-- The version is asked for. -/
  | version
  /-- Nothing is asked for. -/
  | nothingGiven
  /-- Options are given, but no command. -/
  | missingCommand
  /-- A word stands where a command should, and is none. -/
  | unknownCommand
  /-- The command lacks an argument. -/
  | missingArgument
  /-- An option that there is not, or an argument too many. -/
  | unknownArgument
  /-- An option is given twice at one level. -/
  | repeatedOption
  /-- An option has no value. -/
  | missingValue
  /-- A value is not of the kind it should be. -/
  | malformedValue
  /-- A value is given to an option that takes none. -/
  | unwantedValue
deriving DecidableEq, Repr

def Halt.exitCode : Halt → UInt8
  | .help | .version => 0
  | _ => 2

/-- A place for a value in what a level collects. -/
structure Slot (σ : Type) where
  name : String
  /-- Whether the place holds a value. -/
  isGiven : σ → Bool
  /-- Put a value in its place. -/
  set : String → σ → Except Halt σ

/-- A level of a command line that collects its values in `σ`. -/
structure Grammar (σ : Type) where
  options : List (Slot σ)
  /-- The places of the arguments that go by their place, in order. -/
  places : List (Slot σ)
  /-- The names of the commands. -/
  commands : List String
  /-- Whether the version can be asked for. -/
  hasVersion : Bool

/-- A value that is held back; an option may still lack it. -/
structure Pending (σ : Type) where
  slot : Slot σ
  value : Option String

structure Reading (σ : Type) where
  values : σ
  pending : Option (Pending σ)
  /-- The places that are still free. -/
  free : List (Slot σ)
  /-- The command that ended the level, and the words after it. -/
  command : Option (String × List String)

/-- What a word is, by its form alone. -/
inductive Word where
  /-- The word `--`. -/
  | divider
  /-- A word that starts with two hyphens: the name, and the value after an equals sign. -/
  | long (name : String) (value : Option String)
  /-- A word that starts with one hyphen: the first character after it. -/
  | short (letter : Char)
  | plain
deriving DecidableEq, Repr

/-- The form of a word.  A single hyphen is plain. -/
def Word.ofText (text : String) : Word :=
  match text.toList with
  | ['-', '-'] => .divider
  | '-' :: '-' :: cs =>
    let name := cs.takeWhile (· ≠ '=')
    .long (String.ofList name) <|
      if name.length = cs.length then none
      else some (String.ofList (cs.drop (name.length + 1)))
  | '-' :: c :: _ => .short c
  | _ => .plain

namespace Reading

variable {σ : Type}

/-- Put a value in its place, which must be free. -/
def put (r : Reading σ) (slot : Slot σ) (value : String) : Except Halt (Reading σ) :=
  if slot.isGiven r.values then .error .repeatedOption
  else (slot.set value r.values).map fun values => { r with values }

/-- Take in what is held back. -/
def settle (r : Reading σ) : Except Halt (Reading σ) :=
  match r.pending with
  | none => .ok r
  | some ⟨_, none⟩ => .error .missingValue
  | some ⟨slot, some value⟩ => { r with pending := none }.put slot value

def awaitsValue (r : Reading σ) : Bool :=
  match r.pending with
  | some ⟨_, none⟩ => true
  | _ => false

/-- Take in what is held back, and hold back something else. -/
def hold (r : Reading σ) (slot : Slot σ) (value : Option String) : Except Halt (Reading σ) :=
  r.settle.map fun r => { r with pending := some ⟨slot, value⟩ }

def halt (r : Reading σ) (h : Halt) : Except Halt (Reading σ) := r.settle.bind fun _ => .error h

end Reading

namespace Grammar

variable {σ : Type} (g : Grammar σ)

def flag? (name : String) : Option Halt :=
  if name = "help" then some .help
  else if name = "version" ∧ g.hasVersion then some .version
  else none

def letter? (c : Char) : Option Halt :=
  if c = 'h' then some .help
  else if c = 'V' ∧ g.hasVersion then some .version
  else none

/-- Read an option with the value attached to it, if any. -/
def readLong (r : Reading σ) (name : String) (value : Option String) :
    Except Halt (Reading σ) :=
  match g.flag? name, value with
  | some h, none => r.halt h
  | some _, some _ => .error .unwantedValue
  | none, _ =>
    match g.options.find? (·.name = name), value with
    | none, _ => .error .unknownArgument
    | some slot, none => r.hold slot none
    | some slot, some v => r.settle.bind fun r => r.put slot v

def readShort (r : Reading σ) (letter : Char) : Except Halt (Reading σ) :=
  match g.letter? letter with
  | some h => r.halt h
  | none => .error .unknownArgument

/-- Read an argument that goes by its place; `divided` when it stands after `--`. -/
def readPlace (r : Reading σ) (divided : Bool) (word : String) : Except Halt (Reading σ) :=
  match r.free with
  | slot :: free => { r with free }.hold slot (some word)
  | [] =>
    if g.commands.isEmpty ∨ (divided ∧ word ∈ g.commands) then .error .unknownArgument
    else .error .unknownCommand

def readPlain (r : Reading σ) (word : String) : Except Halt (Reading σ) :=
  match r.pending with
  | some ⟨slot, none⟩ => .ok { r with pending := some ⟨slot, some word⟩ }
  | _ => g.readPlace r false word

def readDivided : Reading σ → List String → Except Halt (Reading σ)
  | r, [] => .ok r
  | r, w :: ws => (g.readPlace r true w).bind fun r => readDivided r ws

/-- Read words until the level ends. -/
def readWords : Reading σ → List String → Except Halt (Reading σ)
  | r, [] => .ok r
  | r, w :: ws =>
    if w ∈ g.commands ∧ !r.awaitsValue then .ok { r with command := some (w, ws) }
    else
      match Word.ofText w with
      | .divider => g.readDivided r ws
      | .long name value => (g.readLong r name value).bind fun r => readWords r ws
      | .short letter => (g.readShort r letter).bind fun r => readWords r ws
      | .plain => (g.readPlain r w).bind fun r => readWords r ws

/-- Read a level from its first word, with nothing collected but `values`. -/
def read (values : σ) (words : List String) : Except Halt (Reading σ) :=
  g.readWords ⟨values, none, g.places, none⟩ words

end Grammar

end StartSignal.CommandLine
