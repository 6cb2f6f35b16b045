import Lexicon.Keyword
import Lexicon.Mode
import Lexicon.Symbol
import Lexicon.Text.Quoted

/-!
# Kinds of token

A token is of one of nine kinds. Identifiers and the four literals carry their own text (a
character literal carries one byte); reserved words, modes and symbols carry an entry of their
vocabulary; the three markers stand for a line break, for a byte outside the vocabulary, and for
the end of the source.

Rendering goes from a kind back to source text. It comes in two forms that differ only in
character literals: as text, a byte is read as the code point of the same number, so a byte from
`0x80` on takes two bytes of UTF-8; as bytes, it is the byte itself.

## Main definitions

* `Marker`, `Kind`: the kinds.
* `Kind.ofByte`: the kind of a single byte.
* `Kind.render`, `Kind.renderBytes`, `Kind.spelling?`: back to source text.
* `Kind.ofSpelling?`: the vocabulary entry with a given spelling.
* `Symbol.Row.kind`, `Kind.symbolRow?`: from a row of the symbol table to its kind, and back.
* `Kind.debug`: the form that shows the kind and its payload.
-/

namespace Lexicon

/-- The kinds of token that belong to no vocabulary and carry nothing. -/
inductive Marker where
  /-- The end of a line. -/
  | newline
  /-- A byte that begins no token. -/
  | illegal
  /-- The end of the source. -/
  | eof
  deriving DecidableEq

namespace Marker

/-- Every marker, in order. -/
def all : List Marker := [newline, illegal, eof]

/-- The identifier of a marker. -/
def name : Marker → String
  | newline => "Newline"
  | illegal => "Illegal"
  | eof => "Eof"

/-- The text that stands for a marker. -/
def spelling : Marker → String
  | newline => "\n"
  | illegal => "ILLEGAL"
  | eof => "\x00"

end Marker

/-- The kind of a token, with what it carries. -/
inductive Kind where
  | identifier (text : String)
  | string (text : String)
  | character (byte : UInt8)
  | integer (text : String)
  | float (text : String)
  | keyword (word : Keyword)
  | mode (mode : Mode)
  | symbol (symbol : Symbol)
  | marker (marker : Marker)
  deriving DecidableEq

/-- The kind that a row of the symbol table is about. -/
def Symbol.Row.kind (row : Symbol.Row) : Kind :=
  .symbol row.symbol

namespace Kind

/-! ### Classifying one byte -/

/-- The kind of a **single byte**: NUL ends the source, a line feed ends the line, 28 bytes are
symbols by themselves, and every other byte is illegal. Symbols of several bytes never arise
here. -/
def ofByte (b : UInt8) : Kind :=
  match b with
  | 0x00 => marker .eof
  | 0x0a => marker .newline
  | 0x21 => symbol .bang
  | 0x23 => symbol .hash
  | 0x24 => symbol .dollar
  | 0x25 => symbol .percent
  | 0x26 => symbol .ampersand
  | 0x28 => symbol .lparen
  | 0x29 => symbol .rparen
  | 0x2a => symbol .asterisk
  | 0x2b => symbol .plus
  | 0x2c => symbol .comma
  | 0x2d => symbol .minus
  | 0x2e => symbol .dot
  | 0x2f => symbol .slash
  | 0x3a => symbol .colon
  | 0x3b => symbol .semicolon
  | 0x3c => symbol .lesser
  | 0x3d => symbol .assign
  | 0x3e => symbol .greater
  | 0x3f => symbol .question
  | 0x40 => symbol .atSign
  | 0x5b => symbol .lsquare
  | 0x5c => symbol .backslash
  | 0x5d => symbol .rsquare
  | 0x5e => symbol .caret
  | 0x7b => symbol .lbrace
  | 0x7c => symbol .pipe
  | 0x7d => symbol .rbrace
  | 0x7e => symbol .tilde
  | _ => marker .illegal

/-! ### Rendering -/

/-- The spelling that a kind has whatever it carries as text. Identifiers and literals have none;
their text is their own. -/
def spelling? : Kind → Option String
  | keyword k => some k.spelling
  | mode m => some m.spelling
  | symbol s => some s.spelling
  | marker m => some m.spelling
  | _ => none

/-- The character whose code point is the number of a byte. -/
def byteChar (b : UInt8) : Char :=
  Char.ofNat b.toNat

/-- The source text of a kind. -/
def render : Kind → String
  | identifier text => text
  | string text => text
  | character b => String.singleton (byteChar b)
  | integer text => text
  | float text => text
  | keyword k => k.spelling
  | mode m => m.spelling
  | symbol s => s.spelling
  | marker m => m.spelling

/-- The source bytes of a kind. -/
def renderBytes : Kind → List UInt8
  | identifier text => utf8 text
  | string text => utf8 text
  | character b => [b]
  | integer text => utf8 text
  | float text => utf8 text
  | keyword k => utf8 k.spelling
  | mode m => utf8 m.spelling
  | symbol s => s.bytes
  | marker m => utf8 m.spelling

/-- The identifier of a kind with its payload in parentheses: text quoted, a byte in decimal, an
entry of a vocabulary by its identifier. Symbols and markers are their identifiers alone. -/
def debug : Kind → String
  | identifier text => "Identifier(" ++ quote text ++ ")"
  | string text => "String(" ++ quote text ++ ")"
  | character b => "Character(" ++ b.toNat.repr ++ ")"
  | integer text => "Integer(" ++ quote text ++ ")"
  | float text => "Float(" ++ quote text ++ ")"
  | keyword k => "Keyword(" ++ k.name ++ ")"
  | mode m => "Mode(" ++ m.name ++ ")"
  | symbol s => s.name
  | marker m => m.name

/-! ### Look-up in the vocabularies -/

/-- The entry of a vocabulary with a given spelling: a reserved word, else a mode, else a
symbol. Identifiers, literals and markers are never found this way. -/
def ofSpelling? (s : String) : Option Kind :=
  match Keyword.ofSpelling? s with
  | some k => some (keyword k)
  | none =>
    match Mode.ofSpelling? s with
    | some m => some (mode m)
    | none => (Symbol.ofBytes? (utf8 s)).map symbol

/-- The row of the symbol table that is spelled like the kind, if the kind has a spelling. -/
def symbolRow? (k : Kind) : Option Symbol.Row :=
  k.spelling?.bind fun s => Symbol.rowOf? (utf8 s)

/-! ### Predicates -/

/-- The reserved word that a kind carries. -/
def keyword? : Kind → Option Keyword
  | keyword k => some k
  | _ => none

/-- The mode that a kind carries. -/
def mode? : Kind → Option Mode
  | mode m => some m
  | _ => none

/-- Whether a kind is the given reserved word. -/
def isKeyword (k : Kind) (word : Keyword) : Bool :=
  k.keyword? = some word

/-- Whether a kind is the given mode. -/
def isMode (k : Kind) (m : Mode) : Bool :=
  k.mode? = some m

/-- Whether a kind is an identifier. -/
def isIdentifier : Kind → Bool
  | identifier _ => true
  | _ => false

/-- Whether a kind is a string, character, integer or floating-point literal. -/
def isLiteral : Kind → Bool
  | string _ | character _ | integer _ | float _ => true
  | _ => false

/-- Whether a kind is a marker. -/
def isMarker : Kind → Bool
  | marker _ => true
  | _ => false

/-- Whether a kind is a symbol, told **by exclusion**: it has a fixed spelling, and is neither a
marker nor a word. -/
def isSymbol (k : Kind) : Bool :=
  !k.isMarker && k.spelling?.isSome && k.keyword?.isNone && k.mode?.isNone

/-- Nothing but the symbols is left over. -/
theorem isSymbol_eq (k : Kind) :
    k.isSymbol = match k with
      | symbol _ => true
      | _ => false := by
  cases k <;> rfl

/-- Whether a kind marks the end of the source. -/
def isEof (k : Kind) : Bool :=
  k = marker .eof

end Kind

end Lexicon
