import Lexicon.Kind

/-!
# Tokens

A token is a kind together with where it was found: the name of a source and a position in it.
Positions are pairs of 64-bit numbers; what they count from is the scanner's business.

## Main definitions

* `Position`, `Position.display`, `Position.order`: places in a source.
* `Token`, `Token.display`, `Token.debug`: tokens and their two printed forms.
* `renderText`, `renderBytes`, `firstEof?`: a sequence of tokens as a whole.
* `firstOccurrences`: which elements of a list differ from all earlier ones.
-/

namespace Lexicon

/-- A place in a source. -/
structure Position where
  /-- The line. -/
  line : UInt64
  /-- The column in the line. -/
  column : UInt64
  deriving DecidableEq

namespace Position

/-- The position from which nothing has been counted yet. -/
def start : Position := ⟨0, 0⟩

/-- Line and column in decimal, with a colon between them. -/
def display (p : Position) : String :=
  p.line.toNat.repr ++ ":" ++ p.column.toNat.repr

/-- Positions are ordered by line, then by column. -/
def order (p q : Position) : Ordering :=
  (compare p.line q.line).then (compare p.column q.column)

/-- The position with the names of its fields. -/
def debug (p : Position) : String :=
  "Position \x7b line: " ++ p.line.toNat.repr ++ ", column: " ++ p.column.toNat.repr ++ " \x7d"

end Position

/-- A kind of token at a place in a named source. -/
structure Token where
  /-- The kind. -/
  kind : Kind
  /-- The name of the source. -/
  file : String
  /-- The place in the source. -/
  position : Position
  deriving DecidableEq

namespace Token

/-- Source, position and quoted rendering, as a compiler message begins. The name of the source
stands as it is. -/
def display (t : Token) : String :=
  t.file ++ ":" ++ t.position.display ++ ": " ++ quote t.kind.render

/-- The token with the names of its fields. -/
def debug (t : Token) : String :=
  "Token \x7b kind: " ++ t.kind.debug ++ ", file: " ++ quote t.file ++ ", position: "
    ++ t.position.debug ++ " \x7d"

/-- The reserved word of a token. -/
def keyword? (t : Token) : Option Keyword := t.kind.keyword?

/-- The mode of a token. -/
def mode? (t : Token) : Option Mode := t.kind.mode?

/-- Whether a token marks the end of the source. -/
def isEof (t : Token) : Bool := t.kind.isEof

/-! ### Sequences of tokens -/

/-- The renderings of a sequence, joined by single spaces. -/
def renderText (tokens : List Token) : String :=
  String.intercalate " " (tokens.map fun t => t.kind.render)

/-- The bytes of a sequence, one rendering after the other. -/
def renderBytes (tokens : List Token) : List UInt8 :=
  tokens.flatMap fun t => t.kind.renderBytes

/-- The index of the first token that marks the end of the source. -/
def firstEof? (tokens : List Token) : Option Nat :=
  tokens.findIdx? isEof

end Token

/-- For each element of a list, whether it differs from all earlier ones. -/
def firstOccurrences {α : Type} [DecidableEq α] (l : List α) : List Bool :=
  go [] l
where
  /-- The flags of the remaining elements, given the elements before them. -/
  go (earlier : List α) : List α → List Bool
    | [] => []
    | a :: rest => (!earlier.contains a) :: go (a :: earlier) rest

end Lexicon
