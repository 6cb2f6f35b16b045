/-!
# The layout of a document

A document is built from the front in a buffer of characters. Every section begins after exactly
one blank line, however many newlines the text before it ended in, and the finished document ends
in at most one newline.

A row of a table is written between pipes, with one space on either side of each cell. A spelling
is shown as code, and a pipe inside it is written with a backslash before it, so that it does not
end the cell.

## Main definitions

* `trailingNewlines`, `trimNewlines`: the newlines at the end of a buffer, and keeping at most
  two of them.
* `ensureBlankLine`: end a nonempty buffer in exactly one blank line.
* `startSection`: put a heading after a blank line.
* `closeDocument`: leave at most one newline at the end.
* `Section`, `appendSections`: whole sections, one after the other.
* `escapePipes`, `codeCell`: a spelling as the text of a cell.
* `tableRow`, `table`: a row of cells, and a row of titles with the rule and the rows below it.
-/

namespace Lexicon

namespace Reference

/-! ### Sections -/

/-- How many newlines a buffer ends in. -/
def trailingNewlines (out : List Char) : Nat :=
  (out.reverse.takeWhile (· = '\n')).length

/-- Keep at most two of the newlines at the end of a buffer. -/
def trimNewlines (out : List Char) : List Char :=
  out.take (out.length - (trailingNewlines out - 2))

/-- End a nonempty buffer in exactly one blank line; an empty buffer stays empty. -/
def ensureBlankLine (out : List Char) : List Char :=
  let trimmed := trimNewlines out
  if trimmed.isEmpty || ['\n', '\n'].isSuffixOf trimmed then trimmed
  else if ['\n'].isSuffixOf trimmed then trimmed ++ ['\n']
  else trimmed ++ ['\n', '\n']

/-- Begin a section: its heading on a line of its own, between blank lines. -/
def startSection (out heading : List Char) : List Char :=
  ensureBlankLine out ++ heading ++ ['\n', '\n']

/-- Take away final newlines as long as there are two of them. -/
def dropBlankLines (out : List Char) : List Char :=
  if ['\n', '\n'].isSuffixOf out then dropBlankLines out.dropLast else out
  termination_by out.length
  decreasing_by
    rename_i h
    have := (List.isSuffixOf_iff_suffix.1 h).length_le
    simp only [List.length_cons, List.length_nil] at this
    simp only [List.length_dropLast]
    omega

/-- The closing normalisation of a document: at most one newline at the end. -/
def closeDocument (out : List Char) : List Char :=
  dropBlankLines (trimNewlines out)

/-- A heading and the text below it. -/
structure Section where
  /-- The heading, without its newline. -/
  heading : List Char
  /-- The text below the heading. -/
  body : List Char
  deriving DecidableEq

/-- Append sections to a buffer, one after the other. -/
def appendSections (out : List Char) (sections : List Section) : List Char :=
  sections.foldl (fun out s => startSection out s.heading ++ s.body) out

/-! ### Tables -/

/-- Put a backslash before every pipe. -/
def escapePipes (spelling : List Char) : List Char :=
  spelling.flatMap fun c => if c = '|' then ['\\', '|'] else [c]

/-- A spelling as code inside a cell: between backticks, with its pipes escaped. -/
def codeCell (spelling : List Char) : List Char :=
  ['`'] ++ escapePipes spelling ++ ['`']

/-- A row of cells, without its newline. -/
def tableRow (cells : List (List Char)) : List Char :=
  ['|', ' '] ++ [' ', '|', ' '].intercalate cells ++ [' ', '|']

/-- The rule below the titles: three dashes for each column. -/
def tableRule (columns : Nat) : List Char :=
  '|' :: (List.replicate columns ['-', '-', '-', '|']).flatten

/-- A table with the given titles and rows, each line with its newline. -/
def table (titles : List String) (rows : List (List (List Char))) : List Char :=
  tableRow (titles.map String.toList) ++ ['\n'] ++ tableRule titles.length ++ ['\n']
    ++ rows.flatMap fun cells => tableRow cells ++ ['\n']

end Reference

end Lexicon
