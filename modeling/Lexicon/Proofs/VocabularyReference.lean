import Lexicon.Reference
import Lexicon.Proofs.Sections
import Lexicon.Proofs.TableCells
import Lexicon.Proofs.Vocabulary

/-!
# The Reference Lists Exactly the Vocabularies

The reference has one row for each entry of a vocabulary, and such a row begins with the spelling of
the entry. Conversely, a line that begins like the row of a spelling is a row of that spelling,
whatever pipes, backslashes or backticks the spelling has: cells can be read back, and no line but a
row of an entry begins with a pipe, a space and a backtick.

So the lines about a spelling are what look-up finds under it: one row or none.

## Main results

* `clean_keywordRow`, `clean_modeRow`, `clean_symbolRow`: the cells of entries stay on their line
  and are never cut.
* `linesAbout_entries`, `linesAbout_table`: the lines about a spelling in the table of a vocabulary.
* `linesAbout_document`: **the lines about a spelling** are the rows of what look-up finds.
* `markdown_lists_vocabulary`: the reference documents exactly the vocabularies.
-/

namespace Lexicon

namespace Reference

/-! ### Lines about a spelling -/

/-- The lines that begin like the row of a spelling. -/
def linesAbout (s : String) (lines : List (List Char)) : List (List Char) :=
  lines.filter (rowStart s <+: ·)

/-- The lines about a spelling in two parts of a document. -/
theorem linesAbout_append (s : String) (lines lines' : List (List Char)) :
    linesAbout s (lines ++ lines') = linesAbout s lines ++ linesAbout s lines' :=
  List.filter_append lines lines'

/-- Lines that do not begin with a pipe, a space and a backtick are about no spelling. -/
theorem linesAbout_eq_nil {lines : List (List Char)}
    (h : ∀ line ∈ lines, ¬ ['|', ' ', '`'] <+: line) (s : String) : linesAbout s lines = [] := by
  have hstart : ['|', ' ', '`'] <+: rowStart s :=
    ⟨escapePipes s.toList ++ ['`', ' ', '|', ' '], by simp [rowStart, codeCell]⟩
  refine List.filter_eq_nil_iff.mpr fun line hline hprefix => ?_
  exact h line hline (hstart.trans (of_decide_eq_true hprefix))

/-- **The rows about a spelling** among the rows of a vocabulary, each of which begins with the
spelling of its entry, are the rows of the entries with that spelling. -/
theorem linesAbout_entries {α : Type} {spelling : α → String} {row : α → List (List Char)}
    (hrow : ∀ a, ∃ second cells, row a = codeCell (spelling a).toList :: second :: cells)
    (s : String) (entries : List α) :
    linesAbout s ((entries.map row).map tableRow) =
      (entries.filter fun a => spelling a = s).map fun a => tableRow (row a) := by
  have hiff (a : α) : rowStart s <+: tableRow (row a) ↔ spelling a = s := by
    obtain ⟨second, cells, ha⟩ := hrow a
    rw [ha, rowStart_isPrefix_tableRow_iff (closed_codeCell _), codeCell_injective.eq_iff,
      String.toList_inj]
  rw [linesAbout, List.map_map, List.filter_map]
  exact congrArg (List.map _) (List.filter_congr fun a _ => decide_eq_decide.mpr (hiff a))

/-! ### Tables of entries -/

/-- A cell is **clean** when it stays on its line and is never cut. -/
def Clean (cell : List Char) : Prop :=
  '\n' ∉ cell ∧ Closed cell

instance (cell : List Char) : Decidable (Clean cell) :=
  inferInstanceAs (Decidable ('\n' ∉ cell ∧ Closed cell))

/-- The lines about a spelling in a table of entries with clean cells: the titles and the rule below
them are about no spelling. -/
theorem linesAbout_table {α : Type} {titles : List String} {spelling : α → String}
    {row : α → List (List Char)} (htitles : ∀ title ∈ titles, '\n' ∉ title.toList)
    (hfirst : ¬ ['|', ' ', '`'] <+: tableRow (titles.map String.toList))
    {entries : List α} (hclean : ∀ a ∈ entries, ∀ cell ∈ row a, Clean cell)
    (hrow : ∀ a, ∃ second cells, row a = codeCell (spelling a).toList :: second :: cells)
    (s : String) :
    linesAbout s (contentLines (table titles (entries.map row))) =
      (entries.filter fun a => spelling a = s).map fun a => tableRow (row a) := by
  have hrows : ∀ cells ∈ entries.map row, ∀ cell ∈ cells, '\n' ∉ cell := by
    refine List.forall_mem_map.mpr fun a ha cell hcell => ?_
    exact (hclean a ha cell hcell).1
  have hrule : ¬ ['|', ' ', '`'] <+: tableRule titles.length := by
    cases titles.length <;> simp [tableRule, List.replicate_succ]
  have hhead : linesAbout s [tableRow (titles.map String.toList), tableRule titles.length] = [] :=
    linesAbout_eq_nil (by simp [hfirst, hrule]) s
  rw [contentLines_table htitles hrows]
  refine (linesAbout_append s [_, _] _).trans ?_
  rw [hhead, List.nil_append, linesAbout_entries hrow]

/-! ### The tables of the vocabularies -/

/-- The cells of a reserved word are clean. -/
theorem clean_keywordRow (k : Keyword) : ∀ cell ∈ keywordRow k, Clean cell := by
  have hall : ∀ k ∈ Keyword.all, ∀ cell ∈ keywordRow k, Clean cell := by decide +kernel
  exact hall k k.mem_all

/-- The cells of a mode are clean. -/
theorem clean_modeRow (m : Mode) : ∀ cell ∈ modeRow m, Clean cell := by
  have hall : ∀ m ∈ Mode.all, ∀ cell ∈ modeRow m, Clean cell := by decide +kernel
  exact hall m m.mem_all

/-- The cells of the rows of the symbol table are clean. -/
theorem clean_symbolRow : ∀ row ∈ Symbol.table, ∀ cell ∈ symbolRow row, Clean cell := by
  decide +kernel

/-- The lines about a spelling in the section of reserved words. -/
theorem linesAbout_keywordSection (s : String) :
    linesAbout s (contentLines keywordSection.body) =
      (Keyword.ofSpelling? s).toList.map fun k => tableRow (keywordRow k) := by
  rw [← Keyword.filter_spelling]
  exact linesAbout_table (by decide +kernel) (by decide +kernel) (fun k _ => clean_keywordRow k)
    (fun k => ⟨_, _, rfl⟩) s

/-- The lines about a spelling in the section of modes. -/
theorem linesAbout_modeSection (s : String) :
    linesAbout s (contentLines modeSection.body) =
      (Mode.ofSpelling? s).toList.map fun m => tableRow (modeRow m) := by
  rw [← Mode.filter_spelling]
  exact linesAbout_table (by decide +kernel) (by decide +kernel) (fun m _ => clean_modeRow m)
    (fun m => ⟨_, _, rfl⟩) s

/-- The lines about a spelling in the section of symbols; the note above the table is about none. -/
theorem linesAbout_symbolSection (s : String) :
    linesAbout s (contentLines symbolSection.body) =
      (Symbol.rowOf? (utf8 s)).toList.map fun row => tableRow (symbolRow row) := by
  have hnote : linesAbout s (([symbolNote, ""].map String.toList).filter (· ≠ [])) = [] :=
    linesAbout_eq_nil (by decide +kernel) s
  have hlines : ∀ line ∈ [symbolNote, ""], '\n' ∉ line.toList := by decide +kernel
  have hbody := contentLines_lineChars_append hlines
    (table ["Spelling", "Variant", "Category", "Bytes"] (Symbol.table.map symbolRow))
  have htitles : ∀ title ∈ ["Spelling", "Variant", "Category", "Bytes"], '\n' ∉ title.toList := by
    decide +kernel
  have htable := linesAbout_table htitles (by decide +kernel) clean_symbolRow
    (fun row => ⟨_, _, rfl⟩) s
  rw [← Symbol.filter_spelling, ← htable]
  refine (congrArg (linesAbout s) hbody).trans ?_
  rw [linesAbout_append, hnote, List.nil_append]

/-! ### The whole reference -/

/-- The cells of the row of a kind that belongs to a vocabulary. -/
def entryCells : Kind → List (List Char)
  | .keyword k => keywordRow k
  | .mode m => modeRow m
  | .symbol s => (Symbol.rowOf? s.bytes).elim [] symbolRow
  | _ => []

/-- The cells of a symbol are those of its row in the symbol table. -/
theorem entryCells_symbol {row : Symbol.Row} (h : row ∈ Symbol.table) :
    entryCells (.symbol row.symbol) = symbolRow row := by
  rw [entryCells, Symbol.rowOf?_bytes_of_mem_table h, Option.elim_some]

/-- A row that look-up finds is documented as its symbol. -/
theorem map_tableRow_rowOf? (bytes : List UInt8) :
    ((Symbol.rowOf? bytes).toList.map fun row => tableRow (symbolRow row)) =
      (Symbol.ofBytes? bytes).toList.map fun t => tableRow (entryCells (.symbol t)) := by
  rw [Symbol.ofBytes?]
  cases hrow : Symbol.rowOf? bytes with
  | none => rfl
  | some row =>
      obtain ⟨hmem, -⟩ := Symbol.rowOf?_eq_some_iff.mp hrow
      simp [entryCells_symbol hmem]

/-- **The lines about a spelling** in the reference are the rows of what look-up finds under it. -/
theorem linesAbout_document (s : String) :
    linesAbout s (contentLines document) =
      (Kind.ofSpelling? s).toList.map fun k => tableRow (entryCells k) := by
  have hpreamble : linesAbout s (contentLines preamble) = [] :=
    linesAbout_eq_nil (by decide +kernel) s
  have hmarkers : linesAbout s (contentLines markerSection.body) = [] :=
    linesAbout_eq_nil (by decide +kernel) s
  have hheading : ∀ part ∈ sections, linesAbout s (contentLines part.heading) = [] := by
    have hall : ∀ part ∈ sections, ∀ line ∈ contentLines part.heading,
        ¬ ['|', ' ', '`'] <+: line := by decide +kernel
    exact fun part hpart => linesAbout_eq_nil (hall part hpart) s
  have hbodies : linesAbout s (sections.flatMap fun part =>
        contentLines part.heading ++ contentLines part.body) =
      sections.flatMap fun part => linesAbout s (contentLines part.body) := by
    rw [linesAbout, List.filter_flatMap]
    refine List.flatMap_congr fun part hpart => ?_
    exact (linesAbout_append s _ _).trans (by rw [hheading part hpart, List.nil_append])
  rw [document, contentLines_closeDocument, contentLines_appendSections, linesAbout_append,
    hpreamble, List.nil_append, hbodies, Kind.toList_ofSpelling?]
  simp only [sections, List.flatMap_cons, List.flatMap_nil, hmarkers, linesAbout_keywordSection,
    linesAbout_modeSection, linesAbout_symbolSection, map_tableRow_rowOf?, List.append_nil,
    List.append_assoc, List.map_append, List.map_map]
  rfl

/-- The lines of the reference about a spelling, as texts. -/
theorem filter_splitLines_markdown (s : String) :
    (splitLines markdown).filter (fun line => rowStart s <+: line.toList) =
      (Kind.ofSpelling? s).toList.map fun k => String.ofList (tableRow (entryCells k)) := by
  have hcontent : (document.splitOn '\n').filter (rowStart s <+: ·) =
      linesAbout s (contentLines document) := by
    rw [linesAbout, contentLines, List.filter_filter]
    refine List.filter_congr fun line _ => ?_
    cases line with
    | nil => rfl
    | cons c line => simp
  have htext : (fun line : String => decide (rowStart s <+: line.toList)) ∘ String.ofList =
      fun line => decide (rowStart s <+: line) := by
    funext line
    simp
  rw [splitLines, markdown, String.toList_ofList, List.filter_map, htext, hcontent,
    linesAbout_document, List.map_map]
  rfl

/-- The cells of the row of an entry are clean. -/
theorem clean_entryCells (k : Kind) : ∀ cell ∈ entryCells k, Clean cell := by
  cases k with
  | keyword w => exact clean_keywordRow w
  | mode m => exact clean_modeRow m
  | symbol t =>
      obtain ⟨row, hrow, rfl⟩ := t.exists_mem_table
      rw [entryCells_symbol hrow]
      exact clean_symbolRow row hrow
  | _ => simp [entryCells]

/-- The name under which an entry of a vocabulary is documented: that of the reserved word or the
mode, and of the tag for a symbol. -/
def entryName : Kind → String
  | .keyword k => k.name
  | .mode m => m.name
  | k => k.tag.name

/-- The second cell of the row of an entry is its name. -/
theorem getElem?_entryCells_one {k : Kind} (h : k.InVocabulary) :
    (entryCells k)[1]? = some (entryName k).toList := by
  cases k with
  | keyword w => rfl
  | mode m => rfl
  | symbol t =>
      obtain ⟨row, hrow, rfl⟩ := t.exists_mem_table
      rw [entryCells_symbol hrow]
      rfl
  | _ => exact absurd h (by simp [Kind.InVocabulary, Kind.keyword?, Kind.mode?, Kind.isSymbol_eq])

/-- The name of an entry is read back from its row. -/
theorem getElem?_rowCells_one {k : Kind} (h : k.InVocabulary) :
    (rowCells (tableRow (entryCells k)))[1]? = some (entryName k).toList := by
  have hname := getElem?_entryCells_one h
  have hne : entryCells k ≠ [] := by
    intro hnil
    rw [hnil] at hname
    exact absurd hname (by simp)
  rw [rowCells_tableRow hne fun cell hcell => (clean_entryCells k cell hcell).2, hname]

/-- **The reference documents exactly the vocabularies.** A spelling that look-up resolves to a kind
has exactly one line in the reference that begins with its cell, and the second cell of that line is
the name of the kind. A spelling that look-up does not resolve has no such line, whatever characters
it consists of. -/
theorem markdown_lists_vocabulary (s : String) :
    (∀ k : Kind, Kind.ofSpelling? s = some k →
      ∃ line : String,
        (splitLines markdown).filter (fun line => rowStart s <+: line.toList) = [line] ∧
          (rowCells line.toList)[1]? = some (entryName k).toList) ∧
    (Kind.ofSpelling? s = none →
      ∀ line ∈ splitLines markdown, ¬ rowStart s <+: line.toList) := by
  have hlines := filter_splitLines_markdown s
  refine ⟨fun k hk => ?_, fun hnone line hline hprefix => ?_⟩
  · obtain ⟨hvocabulary, -⟩ := Kind.ofSpelling?_eq_some_iff.mp hk
    rw [hk] at hlines
    refine ⟨String.ofList (tableRow (entryCells k)), hlines, ?_⟩
    rw [String.toList_ofList, getElem?_rowCells_one hvocabulary]
  · rw [hnone] at hlines
    exact List.filter_eq_nil_iff.mp hlines line hline (decide_eq_true hprefix)

/-- The symbol `|` has one row although it is escaped there, and its escaped form has none. -/
theorem markdown_lists_vocabulary_pipe :
    (Kind.ofSpelling? "|" = some (.symbol .pipe) ∧
      ∃ line : String,
        (splitLines markdown).filter (fun line => rowStart "|" <+: line.toList) = [line] ∧
          (rowCells line.toList)[1]? = some "Pipe".toList) ∧
    Kind.ofSpelling? "\\|" = none ∧
      ∀ line ∈ splitLines markdown, ¬ rowStart "\\|" <+: line.toList := by
  have hpipe : Kind.ofSpelling? "|" = some (.symbol .pipe) := by decide +kernel
  have hescaped : Kind.ofSpelling? "\\|" = none := by decide +kernel
  exact ⟨⟨hpipe, (markdown_lists_vocabulary "|").1 _ hpipe⟩, hescaped,
    (markdown_lists_vocabulary "\\|").2 hescaped⟩

end Reference

end Lexicon
