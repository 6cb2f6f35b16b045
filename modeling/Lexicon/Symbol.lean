import Lexicon.Assoc
import Lexicon.Text.Basic

/-!
# Symbols

The closed vocabulary of punctuation, operators and assignments. Each symbol has one spelling of
one to three ASCII characters, and no two symbols are spelled alike.

There are two listings. `Symbol.all` is the order in which symbols are numbered. `Symbol.table` has
a row for each symbol, category by category, with a spelling of its own in every row; it is the
order of the documentation, and all look-up goes through it.

So a spelling is written down twice: `Symbol.spelling` is what a symbol is rendered as, and a row
says what a symbol is found by. Nothing in the definitions makes the two agree; that they do is
`Symbol.spelling_eq_of_mem_table`.

## Main definitions

* `Symbol`, `Symbol.all`: the symbols, in the order of their numbers.
* `Symbol.spelling`, `Symbol.bytes`: what a symbol is rendered as, as text and as bytes.
* `Symbol.Row`, `Symbol.table`: the table of symbols.
* `Symbol.rowOf?`, `Symbol.ofBytes?`: look-up of a whole spelling, given by its bytes.
* `Symbol.longestPrefix?`: the longest symbol at the front of some bytes.
-/

namespace Lexicon

/-- A symbol of fixed spelling. -/
inductive Symbol where
  | assign | inferAssign | plusAssign | minusAssign | asteriskAssign | slashAssign
  | percentAssign | ampersandAssign | pipeAssign | caretAssign | lshiftAssign | rshiftAssign
  | lparen | rparen | lbrace | rbrace | lsquare | rsquare | colon | semicolon | comma | dot
  | arrow | wideArrow | rangeExc | rangeInc | forwardApp | backwardApp
  | plus | minus | asterisk | slash | percent | increment | decrement | exponent | ampersand
  | pipe | caret | tilde | bang | lshift | rshift | concat | equal | notEqual | lesser | lesserEq
  | greater | greaterEq
  | question | atSign | hash | dollar | backslash
  deriving DecidableEq

namespace Symbol

/-- The grouping of symbols in documentation. -/
inductive Category where
  | delimiter | separator | assignment | arrow | operator | marker
  deriving DecidableEq

namespace Category

/-- The word for a category in tables. -/
def word : Category → String
  | delimiter => "delimiter"
  | separator => "separator"
  | assignment => "assignment"
  | arrow => "arrow"
  | operator => "operator"
  | marker => "marker"

/-- The identifier of a category. -/
def name : Category → String
  | delimiter => "Delimiter"
  | separator => "Separator"
  | assignment => "Assignment"
  | arrow => "Arrow"
  | operator => "Operator"
  | marker => "Marker"

end Category

/-- Every symbol, in the order in which symbols are numbered. -/
def all : List Symbol :=
  [ assign, inferAssign, plusAssign, minusAssign, asteriskAssign, slashAssign, percentAssign,
    ampersandAssign, pipeAssign, caretAssign, lshiftAssign, rshiftAssign, lparen, rparen, lbrace,
    rbrace, lsquare, rsquare, colon, semicolon, comma, dot, arrow, wideArrow, rangeExc, rangeInc,
    forwardApp, backwardApp, plus, minus, asterisk, slash, percent, increment, decrement,
    exponent, ampersand, pipe, caret, tilde, bang, lshift, rshift, concat, equal, notEqual,
    lesser, lesserEq, greater, greaterEq, question, atSign, hash, dollar, backslash]

/-- The numbering leaves no symbol out. -/
theorem mem_all (s : Symbol) : s ∈ all := by
  cases s <;> decide

/-- The identifier of a symbol. -/
def name : Symbol → String
  | assign => "Assign"
  | inferAssign => "InferAssign"
  | plusAssign => "PlusAssign"
  | minusAssign => "MinusAssign"
  | asteriskAssign => "AsteriskAssign"
  | slashAssign => "SlashAssign"
  | percentAssign => "PercentAssign"
  | ampersandAssign => "AmpersandAssign"
  | pipeAssign => "PipeAssign"
  | caretAssign => "CaretAssign"
  | lshiftAssign => "LshiftAssign"
  | rshiftAssign => "RshiftAssign"
  | lparen => "Lparen"
  | rparen => "Rparen"
  | lbrace => "Lbrace"
  | rbrace => "Rbrace"
  | lsquare => "Lsquare"
  | rsquare => "Rsquare"
  | colon => "Colon"
  | semicolon => "Semicolon"
  | comma => "Comma"
  | dot => "Dot"
  | arrow => "Arrow"
  | wideArrow => "WideArrow"
  | rangeExc => "RangeExc"
  | rangeInc => "RangeInc"
  | forwardApp => "ForwardApp"
  | backwardApp => "BackwardApp"
  | plus => "Plus"
  | minus => "Minus"
  | asterisk => "Asterisk"
  | slash => "Slash"
  | percent => "Percent"
  | increment => "Increment"
  | decrement => "Decrement"
  | exponent => "Exponent"
  | ampersand => "Ampersand"
  | pipe => "Pipe"
  | caret => "Caret"
  | tilde => "Tilde"
  | bang => "Bang"
  | lshift => "Lshift"
  | rshift => "Rshift"
  | concat => "Concat"
  | equal => "Equal"
  | notEqual => "NotEqual"
  | lesser => "Lesser"
  | lesserEq => "LesserEq"
  | greater => "Greater"
  | greaterEq => "GreaterEq"
  | question => "Question"
  | atSign => "At"
  | hash => "Hash"
  | dollar => "Dollar"
  | backslash => "Backslash"

/-- The source text that a symbol is **rendered as**. -/
def spelling : Symbol → String
  | assign => "="
  | inferAssign => ":="
  | plusAssign => "+="
  | minusAssign => "-="
  | asteriskAssign => "*="
  | slashAssign => "/="
  | percentAssign => "%="
  | ampersandAssign => "&="
  | pipeAssign => "|="
  | caretAssign => "^="
  | lshiftAssign => "<<="
  | rshiftAssign => ">>="
  | lparen => "("
  | rparen => ")"
  | lbrace => "\x7b"
  | rbrace => "\x7d"
  | lsquare => "["
  | rsquare => "]"
  | colon => ":"
  | semicolon => ";"
  | comma => ","
  | dot => "."
  | arrow => "->"
  | wideArrow => "=>"
  | rangeExc => ".."
  | rangeInc => "..="
  | forwardApp => "<|"
  | backwardApp => "|>"
  | plus => "+"
  | minus => "-"
  | asterisk => "*"
  | slash => "/"
  | percent => "%"
  | increment => "++"
  | decrement => "--"
  | exponent => "**"
  | ampersand => "&"
  | pipe => "|"
  | caret => "^"
  | tilde => "~"
  | bang => "!"
  | lshift => "<<"
  | rshift => ">>"
  | concat => "<>"
  | equal => "=="
  | notEqual => "!="
  | lesser => "<"
  | lesserEq => "<="
  | greater => ">"
  | greaterEq => ">="
  | question => "?"
  | atSign => "@"
  | hash => "#"
  | dollar => "$"
  | backslash => "\\"

/-- The bytes that a symbol is rendered as. -/
def bytes (s : Symbol) : List UInt8 :=
  utf8 s.spelling

/-! ### The table -/

/-- A **row** of the table: a symbol, and what is recorded of it. -/
structure Row where
  /-- The symbol that the row is about. -/
  symbol : Symbol
  /-- The spelling that the symbol is found by. -/
  spelling : String
  /-- The group in which it is documented. -/
  category : Category
  deriving DecidableEq

namespace Row

/-- The bytes of the spelling in a row. -/
def bytes (row : Row) : List UInt8 :=
  utf8 row.spelling

/-- Whether a scanner has to look ahead to find the symbol of a row. -/
def isMultiByte (row : Row) : Bool :=
  1 < row.bytes.length

end Row

/-- The rows of all symbols, category by category. -/
def table : List Row :=
  [ ⟨lparen, "(", .delimiter⟩, ⟨rparen, ")", .delimiter⟩, ⟨lbrace, "\x7b", .delimiter⟩,
    ⟨rbrace, "\x7d", .delimiter⟩, ⟨lsquare, "[", .delimiter⟩, ⟨rsquare, "]", .delimiter⟩,
    ⟨colon, ":", .separator⟩, ⟨semicolon, ";", .separator⟩, ⟨comma, ",", .separator⟩,
    ⟨dot, ".", .separator⟩,
    ⟨assign, "=", .assignment⟩, ⟨inferAssign, ":=", .assignment⟩, ⟨plusAssign, "+=", .assignment⟩,
    ⟨minusAssign, "-=", .assignment⟩, ⟨asteriskAssign, "*=", .assignment⟩,
    ⟨slashAssign, "/=", .assignment⟩, ⟨percentAssign, "%=", .assignment⟩,
    ⟨ampersandAssign, "&=", .assignment⟩, ⟨pipeAssign, "|=", .assignment⟩,
    ⟨caretAssign, "^=", .assignment⟩, ⟨lshiftAssign, "<<=", .assignment⟩,
    ⟨rshiftAssign, ">>=", .assignment⟩,
    ⟨arrow, "->", .arrow⟩, ⟨wideArrow, "=>", .arrow⟩, ⟨rangeExc, "..", .arrow⟩,
    ⟨rangeInc, "..=", .arrow⟩, ⟨forwardApp, "<|", .arrow⟩, ⟨backwardApp, "|>", .arrow⟩,
    ⟨plus, "+", .operator⟩, ⟨minus, "-", .operator⟩, ⟨asterisk, "*", .operator⟩,
    ⟨slash, "/", .operator⟩, ⟨percent, "%", .operator⟩, ⟨increment, "++", .operator⟩,
    ⟨decrement, "--", .operator⟩, ⟨exponent, "**", .operator⟩, ⟨ampersand, "&", .operator⟩,
    ⟨pipe, "|", .operator⟩, ⟨caret, "^", .operator⟩, ⟨tilde, "~", .operator⟩,
    ⟨bang, "!", .operator⟩, ⟨lshift, "<<", .operator⟩, ⟨rshift, ">>", .operator⟩,
    ⟨concat, "<>", .operator⟩, ⟨equal, "==", .operator⟩, ⟨notEqual, "!=", .operator⟩,
    ⟨lesser, "<", .operator⟩, ⟨lesserEq, "<=", .operator⟩, ⟨greater, ">", .operator⟩,
    ⟨greaterEq, ">=", .operator⟩,
    ⟨question, "?", .marker⟩, ⟨atSign, "@", .marker⟩, ⟨hash, "#", .marker⟩,
    ⟨dollar, "$", .marker⟩, ⟨backslash, "\\", .marker⟩]

/-- The length of the longest spelling in the table, in bytes. -/
def maxLength : Nat :=
  table.foldl (fun n row => max n row.bytes.length) 0

/-! ### Look-up by spelling -/

/-- The rows by the bytes of their spellings. -/
def index : Assoc (List UInt8) Row :=
  .ofList (table.map fun row => (row.bytes, row))

/-- The row whose whole spelling has the given bytes. -/
def rowOf? (bytes : List UInt8) : Option Row :=
  index.find? bytes

/-- The symbol whose whole spelling has the given bytes. -/
def ofBytes? (bytes : List UInt8) : Option Symbol :=
  (rowOf? bytes).map Row.symbol

/-- The row spelled by the first `n` bytes of the input, or else by the longest shorter part of
them. -/
def longestWithin? (input : List UInt8) : Nat → Option Row
  | 0 => none
  | n + 1 =>
    match rowOf? (input.take (n + 1)) with
    | some row => some row
    | none => longestWithin? input n

/-- The **longest symbol** at the front of the input, with the number of bytes it spans. No
spelling is longer than `maxLength`, so no longer part of the input is tried. -/
def longestPrefix? (input : List UInt8) : Option (Symbol × Nat) :=
  (longestWithin? input (min input.length maxLength)).map fun row =>
    (row.symbol, row.bytes.length)

end Symbol

end Lexicon
