import Lexicon.Assoc
import Lexicon.Version

/-!
# Parameter modes

The closed vocabulary of words that say how an argument is passed. They are spelled like
identifiers and looked up like reserved words, but form a vocabulary of their own.

## Main definitions

* `Mode`, `Mode.all`: the modes, in their order.
* `Mode.spelling`, `Mode.description`, `Mode.since`, `Mode.stability`: the table.
* `Mode.ofSpelling?`, `Mode.parse`: look-up by spelling.
-/

namespace Lexicon

/-- How an argument is passed. -/
inductive Mode where
  /-- The argument is known at compile time. -/
  | comptime
  /-- The argument is passed by location. -/
  | location
  /-- The argument is moved into the callee. -/
  | move
  /-- The argument may be mutated by the callee. -/
  | mutable
  deriving DecidableEq

namespace Mode

/-- Every mode, in order. -/
def all : List Mode := [comptime, location, move, mutable]

/-- The listing leaves no mode out. -/
theorem mem_all (m : Mode) : m ∈ all := by
  cases m <;> decide

/-- The identifier of a mode. -/
def name : Mode → String
  | comptime => "Comptime"
  | location => "Location"
  | move => "Move"
  | mutable => "Mutable"

/-- The spelling of a mode in source text. -/
def spelling : Mode → String
  | comptime => "comptime"
  | location => "loc"
  | move => "mov"
  | mutable => "mut"

/-- What a mode means, in one line. -/
def description : Mode → String
  | comptime => "value is evaluated at compile time"
  | location => "argument is passed by location"
  | move => "argument is moved into the callee"
  | mutable => "argument may be mutated by the callee"

/-- Every mode is available since the first version. -/
def since (_ : Mode) : Version := ⟨0, 1⟩

/-- No mode is held back. -/
def stability (_ : Mode) : Stability := .stable

/-- The position of a mode in the order of all modes. -/
def ordinal (m : Mode) : Nat :=
  all.idxOf m

/-- Modes are ordered by their position. -/
def order (m n : Mode) : Ordering :=
  compare m.ordinal n.ordinal

/-- The mode with a given identifier. -/
def ofName? (name : String) : Option Mode :=
  all.find? fun m => m.name = name

/-- The modes by their spellings. -/
def index : Assoc String Mode :=
  .ofList (all.map fun m => (m.spelling, m))

/-- The mode with a given spelling, if there is one. -/
def ofSpelling? (s : String) : Option Mode :=
  index.find? s

/-- The reason why a spelling was refused as a mode: it is none. -/
structure Unknown where
  /-- The spelling that was refused. -/
  spelling : String
  deriving DecidableEq

/-- The text of the refusal, with the spelling as it was given. -/
def Unknown.message (e : Unknown) : String :=
  "`" ++ e.spelling ++ "` is not a parameter mode"

/-- The mode with a given spelling, or a refusal that carries the spelling. -/
def parse (s : String) : Except Unknown Mode :=
  match ofSpelling? s with
  | some m => .ok m
  | none => .error ⟨s⟩

end Mode

end Lexicon
