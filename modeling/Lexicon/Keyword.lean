import Lexicon.Assoc
import Lexicon.Version

/-!
# Reserved words

The closed vocabulary of reserved words. Each has one spelling, a category for documentation, the
version since which it is reserved, and a stability. A word that is held back for a later version
resolves like every other.

Looking a word up is case-sensitive and takes the whole spelling; a spelling that is not reserved
is an ordinary identifier, so `Keyword.ofSpelling?` answers `none` and only `Keyword.parse` turns
that into an error.

## Main definitions

* `Keyword`, `Keyword.all`: the words, in their order.
* `Keyword.spelling`, `Keyword.category`, `Keyword.since`, `Keyword.stability`: the table.
* `Keyword.ofSpelling?`, `Keyword.parse`: look-up by spelling.
-/

namespace Lexicon

/-- A reserved word. -/
inductive Keyword where
  | ifKw | elseKw | matchKw | forKw | whileKw | breakKw | continueKw | returnKw | deferKw | doKw
  | endKw
  | constKw | letKw | pubKw | fnKw | typeKw | recordKw | variantKw | interfaceKw
  | moduleKw | importKw
  | selfKw
  | trueKw | falseKw
  | andKw | orKw | notKw | inKw | asKw
  | privateKw | deriveKw | staticKw | macroKw | implKw | unsafeKw
  deriving DecidableEq

namespace Keyword

/-- The grouping of reserved words in documentation. -/
inductive Category where
  | controlFlow | declaration | module | binding | literal | operator | reserved
  deriving DecidableEq

namespace Category

/-- The words for a category in tables. -/
def word : Category → String
  | controlFlow => "control flow"
  | declaration => "declaration"
  | module => "module"
  | binding => "binding"
  | literal => "literal"
  | operator => "operator"
  | reserved => "reserved"

/-- The identifier of a category. -/
def name : Category → String
  | controlFlow => "ControlFlow"
  | declaration => "Declaration"
  | module => "Module"
  | binding => "Binding"
  | literal => "Literal"
  | operator => "Operator"
  | reserved => "Reserved"

end Category

/-- Every reserved word, in order. -/
def all : List Keyword :=
  [ ifKw, elseKw, matchKw, forKw, whileKw, breakKw, continueKw, returnKw, deferKw, doKw, endKw,
    constKw, letKw, pubKw, fnKw, typeKw, recordKw, variantKw, interfaceKw, moduleKw, importKw,
    selfKw, trueKw, falseKw, andKw, orKw, notKw, inKw, asKw, privateKw, deriveKw, staticKw,
    macroKw, implKw, unsafeKw]

/-- The listing leaves no word out. -/
theorem mem_all (k : Keyword) : k ∈ all := by
  cases k <;> decide

/-- The identifier of a reserved word. -/
def name : Keyword → String
  | ifKw => "If"
  | elseKw => "Else"
  | matchKw => "Match"
  | forKw => "For"
  | whileKw => "While"
  | breakKw => "Break"
  | continueKw => "Continue"
  | returnKw => "Return"
  | deferKw => "Defer"
  | doKw => "Do"
  | endKw => "End"
  | constKw => "Const"
  | letKw => "Let"
  | pubKw => "Pub"
  | fnKw => "Fn"
  | typeKw => "Type"
  | recordKw => "Record"
  | variantKw => "Variant"
  | interfaceKw => "Interface"
  | moduleKw => "Module"
  | importKw => "Import"
  | selfKw => "SelfKw"
  | trueKw => "True"
  | falseKw => "False"
  | andKw => "And"
  | orKw => "Or"
  | notKw => "Not"
  | inKw => "In"
  | asKw => "As"
  | privateKw => "Private"
  | deriveKw => "Derive"
  | staticKw => "Static"
  | macroKw => "Macro"
  | implKw => "Impl"
  | unsafeKw => "Unsafe"

/-- The spelling of a reserved word in source text. -/
def spelling : Keyword → String
  | ifKw => "if"
  | elseKw => "else"
  | matchKw => "match"
  | forKw => "for"
  | whileKw => "while"
  | breakKw => "break"
  | continueKw => "continue"
  | returnKw => "return"
  | deferKw => "defer"
  | doKw => "do"
  | endKw => "end"
  | constKw => "const"
  | letKw => "let"
  | pubKw => "pub"
  | fnKw => "fn"
  | typeKw => "type"
  | recordKw => "record"
  | variantKw => "variant"
  | interfaceKw => "interface"
  | moduleKw => "module"
  | importKw => "import"
  | selfKw => "self"
  | trueKw => "true"
  | falseKw => "false"
  | andKw => "and"
  | orKw => "or"
  | notKw => "not"
  | inKw => "in"
  | asKw => "as"
  | privateKw => "private"
  | deriveKw => "derive"
  | staticKw => "static"
  | macroKw => "macro"
  | implKw => "impl"
  | unsafeKw => "unsafe"

/-- The category of a reserved word. -/
def category : Keyword → Category
  | ifKw | elseKw | matchKw | forKw | whileKw | breakKw | continueKw | returnKw | deferKw | doKw
  | endKw =>
    .controlFlow
  | constKw | letKw | pubKw | fnKw | typeKw | recordKw | variantKw | interfaceKw => .declaration
  | moduleKw | importKw => .module
  | selfKw => .binding
  | trueKw | falseKw => .literal
  | andKw | orKw | notKw | inKw | asKw => .operator
  | privateKw | deriveKw | staticKw | macroKw | implKw | unsafeKw => .reserved

/-- The version since which a word is reserved. -/
def since : Keyword → Version
  | deferKw | interfaceKw => ⟨0, 2⟩
  | _ => ⟨0, 1⟩

/-- A word is held back exactly when its category says so. -/
def stability (k : Keyword) : Stability :=
  if k.category = .reserved then .reserved else .stable

/-- Whether a word is held back for a later version. -/
def isReserved (k : Keyword) : Bool :=
  k.stability = .reserved

/-- The position of a word in the order of all words. -/
def ordinal (k : Keyword) : Nat :=
  all.idxOf k

/-- Words are ordered by their position. -/
def order (k l : Keyword) : Ordering :=
  compare k.ordinal l.ordinal

/-- The word with a given identifier. -/
def ofName? (name : String) : Option Keyword :=
  all.find? fun k => k.name = name

/-- The words by their spellings. -/
def index : Assoc String Keyword :=
  .ofList (all.map fun k => (k.spelling, k))

/-- The word with a given spelling; `none` means that the spelling is free for identifiers. -/
def ofSpelling? (s : String) : Option Keyword :=
  index.find? s

/-- The reason why a spelling was refused as a reserved word: it is none. -/
structure Unknown where
  /-- The spelling that was refused. -/
  spelling : String
  deriving DecidableEq

/-- The text of the refusal, with the spelling as it was given. -/
def Unknown.message (e : Unknown) : String :=
  "`" ++ e.spelling ++ "` is not a reserved word"

/-- The word with a given spelling, or a refusal that carries the spelling. -/
def parse (s : String) : Except Unknown Keyword :=
  match ofSpelling? s with
  | some k => .ok k
  | none => .error ⟨s⟩

end Keyword

end Lexicon
