import Lexicon.Proofs.VocabularyReference

/-!
# The Layout of a Document

Sections are laid out with one blank line before and one behind every heading, and a document is
closed with one newline at the most. Both rules look at the newlines at the end of the buffer and
at nothing else: beginning a section replaces them by two, closing the document leaves one of them
if there are any.

From this it follows that a document never has **two blank lines in a row**, which is to say three
newlines, provided that its sections bring none with them. One section keeps a buffer free of them,
however the buffer ends; so all sections do, one after the other.

## Main definitions

* `Spaced`: a text without three newlines in a row.
* `Section.WellFormed`: a section with a heading of one line and a body that fits below it.

## Main results

* `startSection_eq`: what beginning a section does to a buffer.
* `closeDocument_eq`: what closing a document does to it.
* `spaced_startSection_append`, `spaced_appendSections`: one section, and **any number of
  sections**, leave a buffer without two blank lines in a row.
* `wellFormed_of_mem_sections`, `document_eq_opening`: the reference is made of such sections.
* `appendSections_normal_form`: the layout as a whole.
-/

namespace Lexicon

namespace Reference

/-! ### The newlines at the end -/

/-- A further newline is one of those at the end. -/
theorem stripNewlines_concat (out : List Char) :
    stripNewlines (out ++ ['\n']) = stripNewlines out := by
  simp [stripNewlines]

/-- A further newline is counted. -/
theorem trailingNewlines_concat (out : List Char) :
    trailingNewlines (out ++ ['\n']) = trailingNewlines out + 1 := by
  simp [trailingNewlines]

/-- However many newlines follow a text, they belong to those at its end. -/
theorem stripNewlines_append_replicate_eq (out : List Char) (n : Nat) :
    stripNewlines (out ++ List.replicate n '\n') = stripNewlines out := by
  induction n with
  | zero => rw [List.replicate_zero, List.append_nil]
  | succ n ih => rw [List.replicate_succ', ← List.append_assoc, stripNewlines_concat, ih]

/-- However many newlines follow a text, all of them are counted. -/
theorem trailingNewlines_append_replicate (out : List Char) (n : Nat) :
    trailingNewlines (out ++ List.replicate n '\n') = trailingNewlines out + n := by
  induction n with
  | zero => rw [List.replicate_zero, List.append_nil, Nat.add_zero]
  | succ n ih =>
      rw [List.replicate_succ', ← List.append_assoc, trailingNewlines_concat, ih, Nat.add_assoc]

/-- Without the newlines at its end, a text has nothing left to strip. -/
theorem stripNewlines_stripNewlines (out : List Char) :
    stripNewlines (stripNewlines out) = stripNewlines out := by
  have hstrip := stripNewlines_append_replicate_eq (stripNewlines out) (trailingNewlines out)
  rw [stripNewlines_append_replicate] at hstrip
  exact hstrip.symm

/-- Without the newlines at its end, a text ends in no newline. -/
theorem trailingNewlines_stripNewlines (out : List Char) :
    trailingNewlines (stripNewlines out) = 0 := by
  have hcount :=
    trailingNewlines_append_replicate (stripNewlines out) (trailingNewlines out)
  rw [stripNewlines_append_replicate] at hcount
  omega

/-- A text ends in a newline exactly when there are newlines at its end to count. -/
theorem getLast?_eq_newline_iff (out : List Char) :
    out.getLast? = some '\n' ↔ 0 < trailingNewlines out := by
  constructor
  · intro hlast
    obtain ⟨before, rfl⟩ := List.getLast?_eq_some_iff.mp hlast
    rw [trailingNewlines_concat]
    omega
  · intro hpos
    obtain ⟨n, hn⟩ := Nat.exists_eq_add_of_lt hpos
    have hout := stripNewlines_append_replicate out
    rw [hn, Nat.zero_add, List.replicate_succ', ← List.append_assoc] at hout
    rw [← hout, List.getLast?_concat]

/-! ### Beginning a section and closing a document -/

/-- Making sure of a blank line **a second time** changes nothing. -/
theorem ensureBlankLine_ensureBlankLine (out : List Char) :
    ensureBlankLine (ensureBlankLine out) = ensureBlankLine out := by
  by_cases h : out = []
  · subst h
    rfl
  · have hstrip : stripNewlines (stripNewlines out ++ ['\n', '\n']) = stripNewlines out :=
      (stripNewlines_append_replicate_eq _ 2).trans (stripNewlines_stripNewlines out)
    have hne : stripNewlines out ++ ['\n', '\n'] ≠ [] := by simp
    rw [ensureBlankLine_eq h, ensureBlankLine_eq hne, hstrip]

/-- A section begins **two newlines behind** what the buffer ends in, newlines apart. -/
theorem startSection_eq {out : List Char} (h : out ≠ []) (heading : List Char) :
    startSection out heading =
      stripNewlines out ++ ['\n', '\n'] ++ heading ++ ['\n', '\n'] := by
  rw [startSection, ensureBlankLine_eq h]

/-- Dropping blank lines leaves one of the newlines at the end, if there are any. -/
theorem dropBlankLines_eq (out : List Char) :
    dropBlankLines out =
      stripNewlines out ++ List.replicate (min (trailingNewlines out) 1) '\n' := by
  induction out using dropBlankLines.induct with
  | case1 out h ih =>
      obtain ⟨before, rfl⟩ := List.isSuffixOf_iff_suffix.mp h
      have hlast : before ++ ['\n', '\n'] = before ++ ['\n'] ++ ['\n'] := by simp
      have hmin (n : Nat) : min (n + 1 + 1) 1 = min (n + 1) 1 := by omega
      rw [dropBlankLines, if_pos h, ih, hlast, List.dropLast_concat,
        stripNewlines_concat (before ++ ['\n']), trailingNewlines_concat (before ++ ['\n']),
        trailingNewlines_concat before, hmin]
  | case2 out h =>
      -- Two newlines at the end would be dropped, so there is one at the most.
      have hone : trailingNewlines out ≤ 1 := by
        by_contra hmore
        obtain ⟨n, hn⟩ := Nat.exists_eq_add_of_lt (Nat.lt_of_not_le hmore)
        have hout := stripNewlines_append_replicate out
        rw [hn, Nat.add_right_comm, Nat.add_comm, ← List.replicate_append_replicate,
          ← List.append_assoc] at hout
        exact h (List.isSuffixOf_iff_suffix.mpr ⟨_, hout⟩)
      rw [dropBlankLines, if_neg h, Nat.min_eq_left hone, stripNewlines_append_replicate]

/-- Closing a document leaves **one of the newlines at its end**, if there are any. -/
theorem closeDocument_eq (out : List Char) :
    closeDocument out =
      stripNewlines out ++ List.replicate (min (trailingNewlines out) 1) '\n' := by
  have hmin : min (min (trailingNewlines out) 2) 1 = min (trailingNewlines out) 1 := by omega
  rw [closeDocument, trimNewlines_eq, dropBlankLines_eq, stripNewlines_append_replicate_eq,
    stripNewlines_stripNewlines, trailingNewlines_append_replicate,
    trailingNewlines_stripNewlines, Nat.zero_add, hmin]

/-- A document that ends in a newline ends in exactly one when it is closed. -/
theorem closeDocument_of_getLast?_eq {out : List Char} (h : out.getLast? = some '\n') :
    closeDocument out = stripNewlines out ++ ['\n'] := by
  rw [closeDocument_eq, Nat.min_eq_right ((getLast?_eq_newline_iff out).mp h)]
  rfl

/-- A document that does not end in a newline is closed already. -/
theorem closeDocument_of_getLast?_ne {out : List Char} (h : out.getLast? ≠ some '\n') :
    closeDocument out = out := by
  have hzero : trailingNewlines out = 0 := by
    rw [Ne, getLast?_eq_newline_iff] at h
    omega
  have hout := stripNewlines_append_replicate out
  rw [hzero] at hout
  rw [closeDocument_eq, hzero, Nat.zero_min, hout]

/-- Closing a document only takes something away from its end. -/
theorem closeDocument_isPrefix (out : List Char) : closeDocument out <+: out := by
  refine ⟨List.replicate (trailingNewlines out - min (trailingNewlines out) 1) '\n', ?_⟩
  have hcount : min (trailingNewlines out) 1 +
      (trailingNewlines out - min (trailingNewlines out) 1) = trailingNewlines out := by omega
  rw [closeDocument_eq, List.append_assoc, List.replicate_append_replicate, hcount,
    stripNewlines_append_replicate]

/-! ### Texts without two blank lines in a row -/

/-- A text has **no two blank lines in a row**: nowhere do three newlines follow one another. -/
def Spaced (text : List Char) : Prop :=
  ¬ ['\n', '\n', '\n'] <:+: text

instance (text : List Char) : Decidable (Spaced text) :=
  inferInstanceAs (Decidable (¬ _ <:+: text))

/-- A part of such a text is one as well. -/
theorem Spaced.of_isInfix {text part : List Char} (h : Spaced text) (hpart : part <:+: text) :
    Spaced part :=
  fun hthree => h (hthree.trans hpart)

/-- A text on one line has no blank lines at all. -/
theorem spaced_of_notMem {text : List Char} (h : '\n' ∉ text) : Spaced text :=
  fun hthree => h (hthree.subset List.mem_cons_self)

/-- A text that does not begin with a newline has no newlines at its beginning. -/
theorem not_isPrefix_of_head?_ne {text : List Char} (h : text.head? ≠ some '\n')
    (more : List Char) : ¬ '\n' :: more <+: text := by
  rintro ⟨rest, rfl⟩
  exact h rfl

/-- Two newlines before a text that begins with none are no third one. -/
theorem Spaced.newline_newline_cons {text : List Char} (h : Spaced text)
    (hhead : text.head? ≠ some '\n') : Spaced ('\n' :: '\n' :: text) := by
  intro hthree
  rcases List.infix_cons_iff.mp hthree with hfirst | hthree
  · exact not_isPrefix_of_head?_ne hhead [] (by simpa using hfirst)
  · rcases List.infix_cons_iff.mp hthree with hsecond | hlater
    · exact not_isPrefix_of_head?_ne hhead ['\n'] (by simpa using hsecond)
    · exact h hlater

/-- **What follows a text that ends in no newline** does not join with newlines of it. -/
theorem Spaced.append {text text' : List Char} (h : Spaced text)
    (hlast : text.getLast? ≠ some '\n') (h' : Spaced text') : Spaced (text ++ text') := by
  intro hthree
  rcases List.infix_append_iff_ne_nil.mp hthree with
    hbefore | hbehind | ⟨first, second, hne, -, hsplit, hfirst, -⟩
  · exact h hbefore
  · exact h' hbehind
  · -- Newlines across the seam would be newlines at the end of the first text.
    have hnewline : first.getLast hne = '\n' := by
      have hmem : first.getLast hne ∈ ['\n', '\n', '\n'] :=
        hsplit ▸ List.mem_append_left second (List.getLast_mem hne)
      simpa using hmem
    obtain ⟨before, rfl⟩ := hfirst
    rw [List.getLast?_append, List.getLast?_eq_some_getLast hne, hnewline] at hlast
    exact hlast rfl

/-- A line before a blank line and a text that begins with no newline. -/
theorem Spaced.line_blankLine_append {line text : List Char} (h : Spaced text)
    (hline : '\n' ∉ line) (hhead : text.head? ≠ some '\n') :
    Spaced (line ++ '\n' :: '\n' :: text) := by
  refine (spaced_of_notMem hline).append ?_ (h.newline_newline_cons hhead)
  exact fun hlast => hline (List.mem_of_getLast? hlast)

/-! ### Sections -/

/-- A section that **fits into a document**: its heading is one line that is not empty, and its body
begins with no newline and has no two blank lines in a row. -/
structure Section.WellFormed (s : Section) : Prop where
  /-- The heading is not empty. -/
  heading_ne_nil : s.heading ≠ []
  /-- The heading is a single line. -/
  newline_notMem_heading : '\n' ∉ s.heading
  /-- The body does not begin with a newline. -/
  head?_body_ne : s.body.head? ≠ some '\n'
  /-- The body has no two blank lines in a row. -/
  spaced_body : Spaced s.body

/-- A section by itself: the heading, a blank line and the body. -/
theorem Section.WellFormed.spaced {s : Section} (h : s.WellFormed) :
    Spaced (s.heading ++ '\n' :: '\n' :: s.body) :=
  h.spaced_body.line_blankLine_append h.newline_notMem_heading h.head?_body_ne

/-- **One section** leaves a buffer without two blank lines in a row, however the buffer ended. -/
theorem spaced_startSection_append {out : List Char} {s : Section} (hout : Spaced out)
    (hs : s.WellFormed) : Spaced (startSection out s.heading ++ s.body) := by
  by_cases hempty : out = []
  · have hbuffer : startSection out s.heading ++ s.body =
        s.heading ++ '\n' :: '\n' :: s.body := by
      subst hempty
      exact List.append_assoc s.heading ['\n', '\n'] s.body
    rw [hbuffer]
    exact hs.spaced
  · have hbuffer : startSection out s.heading ++ s.body =
        stripNewlines out ++ '\n' :: '\n' :: (s.heading ++ '\n' :: '\n' :: s.body) := by
      simp [startSection_eq hempty]
    have hstrip : stripNewlines out <+: out := ⟨_, stripNewlines_append_replicate out⟩
    have hhead : (s.heading ++ '\n' :: '\n' :: s.body).head? ≠ some '\n' := by
      rw [List.head?_append_of_ne_nil _ hs.heading_ne_nil]
      exact fun hfirst => hs.newline_notMem_heading (List.mem_of_head? hfirst)
    rw [hbuffer]
    exact (hout.of_isInfix hstrip.isInfix).append (getLast?_stripNewlines_ne out)
      (hs.spaced.newline_newline_cons hhead)

/-- The section that was appended last stands at the end. -/
theorem appendSections_concat (out : List Char) (sections : List Section) (s : Section) :
    appendSections out (sections ++ [s]) =
      startSection (appendSections out sections) s.heading ++ s.body := by
  rw [appendSections, List.foldl_append]
  rfl

/-- **Any number of sections** leave a buffer without two blank lines in a row. -/
theorem spaced_appendSections {out : List Char} {sections : List Section} (hout : Spaced out)
    (hsections : ∀ s ∈ sections, s.WellFormed) : Spaced (appendSections out sections) := by
  induction sections generalizing out with
  | nil => exact hout
  | cons s sections ih =>
      obtain ⟨hs, hrest⟩ := List.forall_mem_cons.mp hsections
      rw [appendSections_cons]
      exact ih (spaced_startSection_append hout hs) hrest

/-! ### The sections of the reference -/

/-- Lines that are not empty, each with its newline, begin with no newline and have no two blank
lines in a row. -/
theorem spaced_flatMap_lines {lines : List (List Char)}
    (h : ∀ line ∈ lines, line ≠ [] ∧ '\n' ∉ line) :
    Spaced (lines.flatMap (· ++ ['\n'])) ∧ (lines.flatMap (· ++ ['\n'])).head? ≠ some '\n' := by
  induction lines with
  | nil => decide
  | cons line lines ih =>
      obtain ⟨⟨hne, hline⟩, hlines⟩ := List.forall_mem_cons.mp h
      obtain ⟨hspaced, hhead⟩ := ih hlines
      rw [List.flatMap_cons, List.append_assoc, List.singleton_append]
      constructor
      · have hone := (hspaced.newline_newline_cons hhead).of_isInfix (List.suffix_cons _ _).isInfix
        refine (spaced_of_notMem hline).append ?_ hone
        exact fun hlast => hline (List.mem_of_getLast? hlast)
      · rw [List.head?_append_of_ne_nil _ hne]
        exact fun hfirst => hline (List.mem_of_head? hfirst)

/-- A table whose cells stay on their lines can stand in a body. -/
theorem spaced_table {titles : List String} {rows : List (List (List Char))}
    (htitles : ∀ title ∈ titles, '\n' ∉ title.toList)
    (hrows : ∀ cells ∈ rows, ∀ cell ∈ cells, '\n' ∉ cell) :
    Spaced (table titles rows) ∧ (table titles rows).head? ≠ some '\n' := by
  have hlines : table titles rows =
      (tableRow (titles.map String.toList) :: tableRule titles.length ::
        rows.map tableRow).flatMap (· ++ ['\n']) := by
    simp [table, List.flatMap_map]
  rw [hlines]
  refine spaced_flatMap_lines fun line hline => ?_
  rcases List.mem_cons.mp hline with rfl | hline
  · exact ⟨by simp [tableRow], newline_notMem_tableRow (List.forall_mem_map.mpr htitles)⟩
  · rcases List.mem_cons.mp hline with rfl | hline
    · exact ⟨by simp [tableRule], newline_notMem_tableRule _⟩
    · obtain ⟨cells, hcells, rfl⟩ := List.mem_map.mp hline
      exact ⟨by simp [tableRow], newline_notMem_tableRow (hrows cells hcells)⟩

/-- So can the table of symbols, with the note above it. -/
theorem spaced_symbolSection :
    Spaced symbolSection.body ∧ symbolSection.body.head? ≠ some '\n' := by
  have hlines (note : String) (rest : List Char) :
      lineChars [note, ""] ++ rest = note.toList ++ '\n' :: '\n' :: rest := by
    simp [lineChars]
  have hbody : symbolSection.body = symbolNote.toList ++ '\n' :: '\n' ::
      table ["Spelling", "Variant", "Category", "Bytes"] (Symbol.table.map symbolRow) :=
    hlines symbolNote _
  have hnote : '\n' ∉ symbolNote.toList ∧ symbolNote.toList.head? = some 'M' := by decide +kernel
  have htitles : ∀ title ∈ ["Spelling", "Variant", "Category", "Bytes"], '\n' ∉ title.toList := by
    decide +kernel
  have hrows : ∀ cells ∈ Symbol.table.map symbolRow, ∀ cell ∈ cells, '\n' ∉ cell :=
    List.forall_mem_map.mpr fun row hrow cell hcell => (clean_symbolRow row hrow cell hcell).1
  obtain ⟨hspaced, hhead⟩ := spaced_table htitles hrows
  rw [hbody]
  refine ⟨hspaced.line_blankLine_append hnote.1 hhead, ?_⟩
  rw [List.head?_append, hnote.2]
  exact (by decide : some 'M' ≠ some '\n')

/-- The sections of the reference fit into a document. -/
theorem wellFormed_of_mem_sections : ∀ s ∈ sections, s.WellFormed := by
  have hheading : ∀ s ∈ sections, s.heading ≠ [] ∧ '\n' ∉ s.heading := by decide +kernel
  have hbody : ∀ s ∈ sections, Spaced s.body ∧ s.body.head? ≠ some '\n' := by
    simp only [sections, List.forall_mem_cons, List.not_mem_nil, false_imp_iff, implies_true,
      and_true]
    refine ⟨?_, ?_, ?_, ?_⟩
    · exact spaced_table (by decide +kernel) (List.forall_mem_map.mpr fun k _ cell hcell =>
        (clean_keywordRow k cell hcell).1)
    · exact spaced_table (by decide +kernel) (List.forall_mem_map.mpr fun m _ cell hcell =>
        (clean_modeRow m cell hcell).1)
    · exact spaced_symbolSection
    · exact spaced_table (by decide +kernel) (by decide +kernel)
  intro s hs
  obtain ⟨hne, hline⟩ := hheading s hs
  obtain ⟨hspaced, hhead⟩ := hbody s hs
  exact ⟨hne, hline, hhead, hspaced⟩

/-- The beginning of the reference as a section: its title, and what stands between the title and
the first table. -/
def opening : Section where
  heading := preamble.takeWhile (· ≠ '\n')
  body := (preamble.dropWhile (· ≠ '\n')).drop 2

/-- The beginning of the reference fits into a document. -/
theorem wellFormed_opening : opening.WellFormed := by
  refine ⟨?_, ?_, ?_, ?_⟩ <;> decide +kernel

/-- The reference is made of **sections alone**, from an empty buffer on. -/
theorem document_eq_opening :
    document = closeDocument (appendSections [] (opening :: sections)) := by
  have hpreamble : startSection [] opening.heading ++ opening.body = preamble := by decide +kernel
  rw [document, appendSections_cons, hpreamble]

/-- Before it is closed, the reference ends in a newline: its last table does. -/
theorem getLast?_appendSections_opening :
    (appendSections [] (opening :: sections)).getLast? = some '\n' := by
  have hmarkers : markerSection.body.getLast? = some '\n' := by decide +kernel
  have hsplit : opening :: sections =
      [opening, keywordSection, modeSection, symbolSection] ++ [markerSection] := rfl
  rw [hsplit, appendSections_concat, List.getLast?_append, hmarkers]
  rfl

/-! ### The whole layout -/

/-- **The layout of a document.** A section that is begun in an empty buffer puts its heading and a
blank line there; in any other buffer the newlines at the end are first replaced by two. Making sure
of a blank line twice is the same as once. And if any sections that fit into a document are appended
to an empty buffer and the document is closed, then it has no two blank lines in a row; it ends in
exactly one newline if it ended in any before it was closed, and otherwise closing does not change
it. -/
theorem appendSections_normal_form :
    (∀ heading, startSection [] heading = heading ++ ['\n', '\n']) ∧
    (∀ out heading, out ≠ [] →
      startSection out heading =
        stripNewlines out ++ ['\n', '\n'] ++ heading ++ ['\n', '\n']) ∧
    (∀ out, ensureBlankLine (ensureBlankLine out) = ensureBlankLine out) ∧
    ∀ sections : List Section, (∀ s ∈ sections, s.WellFormed) →
      let out := appendSections [] sections
      Spaced (closeDocument out) ∧
      (out.getLast? = some '\n' → closeDocument out = stripNewlines out ++ ['\n'] ∧
        (stripNewlines out).getLast? ≠ some '\n') ∧
      (out.getLast? ≠ some '\n' → closeDocument out = out) := by
  refine ⟨fun heading => rfl, fun out heading hne => startSection_eq hne heading,
    ensureBlankLine_ensureBlankLine, fun sections hsections => ?_⟩
  intro out
  have hempty : Spaced [] := spaced_of_notMem List.not_mem_nil
  have hspaced : Spaced out := spaced_appendSections hempty hsections
  refine ⟨hspaced.of_isInfix (closeDocument_isPrefix out).isInfix, fun hlast => ?_, fun hlast => ?_⟩
  · exact ⟨closeDocument_of_getLast?_eq hlast, getLast?_stripNewlines_ne out⟩
  · exact closeDocument_of_getLast?_ne hlast

/-- **The reference** is such a document: it has no two blank lines in a row and ends in exactly one
newline. -/
theorem appendSections_normal_form_document :
    (∀ s ∈ opening :: sections, s.WellFormed) ∧
      document = closeDocument (appendSections [] (opening :: sections)) ∧
      Spaced document ∧ ∃ text, document = text ++ ['\n'] ∧ text.getLast? ≠ some '\n' := by
  have hsections : ∀ s ∈ opening :: sections, s.WellFormed :=
    List.forall_mem_cons.mpr ⟨wellFormed_opening, wellFormed_of_mem_sections⟩
  obtain ⟨-, -, -, hlayout⟩ := appendSections_normal_form
  obtain ⟨hspaced, hclosed, -⟩ := hlayout (opening :: sections) hsections
  rw [← document_eq_opening] at hspaced hclosed
  exact ⟨hsections, document_eq_opening, hspaced, _, hclosed getLast?_appendSections_opening⟩

end Reference

end Lexicon
