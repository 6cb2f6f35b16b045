import Lexicon.Reference.Layout
import Lexicon.Tag
import Lexicon.Text.Basic

/-!
# The vocabulary reference

A Markdown document that lists the three vocabularies and the markers, one table each. It is
generated from the vocabularies, so it lists exactly what they hold.

## Main definitions

* `Reference.sections`: the four sections.
* `Reference.document`, `Reference.markdown`: the document, as characters and as a text.
-/

namespace Lexicon

namespace Reference

/-- What stands before the first section. -/
def preamble : List Char :=
  lineChars
    [ "# Ruka vocabulary reference",
      "",
      "!!! warning \"Generated file\"",
      "    Do not edit this page by hand.",
      "    Regenerate with: `ruka vocab --output <path>`",
      "",
      "## Contents",
      "",
      "- [Keywords](#keywords)",
      "- [Parameter modes](#parameter-modes)",
      "- [Symbols](#symbols)",
      "- [Structural tokens](#structural-tokens)",
      "" ]

/-- The cells of a reserved word. -/
def keywordRow (k : Keyword) : List (List Char) :=
  [codeCell k.spelling.toList, k.name.toList, k.category.word.toList, k.since.display.toList,
    k.stability.word.toList]

/-- The cells of a mode. -/
def modeRow (m : Mode) : List (List Char) :=
  [codeCell m.spelling.toList, m.name.toList, m.description.toList, m.since.display.toList]

/-- The cells of a row of the symbol table. -/
def symbolRow (row : Symbol.Row) : List (List Char) :=
  [codeCell row.spelling.toList, row.kind.tag.name.toList, row.category.word.toList,
    row.bytes.length.repr.toList]

/-- The cells of a marker. Its rendering is escaped, for it may be a control character. -/
def markerRow (m : Marker) : List (List Char) :=
  [m.name.toList, codeCell (escape m.spelling).toList]

/-- The section of reserved words. -/
def keywordSection : Section where
  heading := "## Keywords".toList
  body :=
    table ["Spelling", "Variant", "Category", "Since", "Stability"] (Keyword.all.map keywordRow)

/-- The section of modes. -/
def modeSection : Section where
  heading := "## Parameter modes".toList
  body := table ["Spelling", "Variant", "Description", "Since"] (Mode.all.map modeRow)

/-- What stands above the table of symbols. -/
def symbolNote : String :=
  "Multi-byte symbols are matched longest-first; "
    ++ "single-byte symbols are what `classify_byte` returns."

/-- The section of symbols, in the order of the table. -/
def symbolSection : Section where
  heading := "## Symbols".toList
  body :=
    lineChars [symbolNote, ""]
      ++ table ["Spelling", "Variant", "Category", "Bytes"] (Symbol.table.map symbolRow)

/-- The section of markers. -/
def markerSection : Section where
  heading := "## Structural tokens".toList
  body := table ["Variant", "Rendering"] ([Marker.newline, .eof, .illegal].map markerRow)

/-- The sections of the reference, in order. -/
def sections : List Section :=
  [keywordSection, modeSection, symbolSection, markerSection]

/-- The characters of the reference. -/
def document : List Char :=
  closeDocument (appendSections preamble sections)

/-- The **vocabulary reference** as a Markdown document. -/
def markdown : String :=
  String.ofList document

end Reference

end Lexicon
