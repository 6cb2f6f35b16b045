import Mathlib.Data.List.TakeWhile
import Lexicon.Reference.Layout
import Lexicon.Proofs.Lines

/-!
# The Content of a Document

A document is laid out with blank lines between its sections, and the layout looks at the newlines
that the buffer happens to end in. What it does to them has a simple form: the newlines at the end
of a buffer are replaced by two, unless the buffer is empty. So the layout only ever touches blank
lines, and the content of a document is the content of its parts, in order.

## Main results

* `stripNewlines_append_replicate`: a buffer and the newlines at its end.
* `ensureBlankLine_eq`: **the newlines at the end are replaced by two**.
* `contentLines_appendSections`: **the content of a document** is the content of its beginning, its
  headings and its bodies.
* `contentLines_closeDocument`: closing a document does not change its content.
* `contentLines_table`: the lines of a table.
-/

namespace Lexicon

namespace Reference

/-! ### Newlines at the end -/

/-- A buffer without the newlines at its end. -/
def stripNewlines (out : List Char) : List Char :=
  (out.reverse.dropWhile (· = '\n')).reverse

/-- A buffer is what is left without the newlines at its end, and those newlines. -/
theorem stripNewlines_append_replicate (out : List Char) :
    stripNewlines out ++ List.replicate (trailingNewlines out) '\n' = out := by
  have htake : out.reverse.takeWhile (· = '\n') = List.replicate (trailingNewlines out) '\n' := by
    refine List.eq_replicate_iff.mpr ⟨rfl, fun c hc => ?_⟩
    exact of_decide_eq_true (List.mem_takeWhile_imp (p := fun c => c = '\n') hc)
  have hsplit : out.reverse.takeWhile (· = '\n') ++ out.reverse.dropWhile (· = '\n') =
      out.reverse := List.takeWhile_append_dropWhile
  rw [htake] at hsplit
  rw [← List.reverse_inj, ← hsplit, stripNewlines]
  simp

/-- Without the newlines at its end, a buffer does not end in a newline. -/
theorem getLast?_stripNewlines_ne (out : List Char) :
    (stripNewlines out).getLast? ≠ some '\n' := by
  rw [stripNewlines, List.getLast?_reverse]
  intro hlast
  have hnot := List.head?_dropWhile_not (fun c => c = '\n') out.reverse
  rw [hlast] at hnot
  exact absurd hnot (by decide)

/-- Trimming leaves two newlines at most at the end. -/
theorem trimNewlines_eq (out : List Char) :
    trimNewlines out =
      stripNewlines out ++ List.replicate (min (trailingNewlines out) 2) '\n' := by
  have hout := stripNewlines_append_replicate out
  generalize stripNewlines out = base at hout ⊢
  have hlength : out.length - (trailingNewlines out - 2) =
      base.length + min (trailingNewlines out) 2 := by
    have hlen := congrArg List.length hout
    rw [List.length_append, List.length_replicate] at hlen
    omega
  calc trimNewlines out = out.take (base.length + min (trailingNewlines out) 2) := by
        rw [trimNewlines, hlength]
    _ = (base ++ List.replicate (trailingNewlines out) '\n').take
          (base.length + min (trailingNewlines out) 2) := by rw [hout]
    _ = base ++ List.replicate (min (trailingNewlines out) 2) '\n' := by
        rw [List.take_length_add_append, List.take_replicate, Nat.min_assoc, Nat.min_comm 2,
          ← Nat.min_assoc, Nat.min_self]

/-- Behind a buffer that ends in no newline, no more newlines stand than were written there. -/
theorem not_suffix_of_getLast?_ne {base : List Char} (h : base.getLast? ≠ some '\n')
    (before newlines : List Char) : ¬ before ++ '\n' :: newlines <:+ base ++ newlines := by
  rintro ⟨first, hfirst⟩
  have hfirst' : (first ++ before ++ ['\n']) ++ newlines = base ++ newlines := by
    rw [← hfirst]
    simp
  have hbase : first ++ before ++ ['\n'] = base := List.append_cancel_right hfirst'
  rw [← hbase, List.getLast?_concat] at h
  exact h rfl

/-- **The newlines at the end of a buffer are replaced by two**, unless the buffer is empty. -/
theorem ensureBlankLine_eq {out : List Char} (h : out ≠ []) :
    ensureBlankLine out = stripNewlines out ++ ['\n', '\n'] := by
  have hout := stripNewlines_append_replicate out
  have hnot := not_suffix_of_getLast?_ne (getLast?_stripNewlines_ne out)
  rw [ensureBlankLine, trimNewlines_eq]
  generalize stripNewlines out = base at hout hnot ⊢
  -- The three cases are the numbers of newlines that trimming can leave.
  rcases hn : trailingNewlines out with _ | _ | n
  · have hone : ¬ ['\n'] <:+ base := by simpa using hnot [] []
    have htwo : ¬ ['\n', '\n'] <:+ base := by simpa using hnot ['\n'] []
    have hne : base ≠ [] := by
      rw [hn, List.replicate_zero, List.append_nil] at hout
      rw [hout]
      exact h
    simp [hne, hone, htwo]
  · have htwo : ¬ ['\n', '\n'] <:+ base ++ ['\n'] := hnot [] ['\n']
    simp [htwo]
  · have hmin : min (n + 1 + 1) 2 = 2 := by omega
    rw [hmin]
    simp

/-! ### Content -/

/-- The newlines at the end of a buffer are not content. -/
theorem contentLines_stripNewlines (out : List Char) :
    contentLines (stripNewlines out) = contentLines out := by
  have hout := stripNewlines_append_replicate out
  rw [← contentLines_append_replicate, hout]

/-- Behind a blank line, new content begins. -/
theorem contentLines_ensureBlankLine_append (out rest : List Char) :
    contentLines (ensureBlankLine out ++ rest) = contentLines out ++ contentLines rest := by
  by_cases h : out = []
  · subst h
    rfl
  · have hlines : stripNewlines out ++ ['\n', '\n'] ++ rest =
        (stripNewlines out ++ List.replicate 1 '\n') ++ '\n' :: rest := by
      simp
    rw [ensureBlankLine_eq h, hlines, contentLines_append_newline, contentLines_append_replicate,
      contentLines_stripNewlines]

/-- A section adds its heading and its body to the content. -/
theorem contentLines_startSection_append (out heading body : List Char) :
    contentLines (startSection out heading ++ body) =
      contentLines out ++ (contentLines heading ++ contentLines body) := by
  have hlines : startSection out heading ++ body =
      ensureBlankLine out ++ (heading ++ List.replicate 1 '\n' ++ '\n' :: body) := by
    simp [startSection]
  rw [hlines, contentLines_ensureBlankLine_append, contentLines_append_newline,
    contentLines_append_replicate]

/-- Taking final newlines away does not change the content. -/
theorem contentLines_dropBlankLines (out : List Char) :
    contentLines (dropBlankLines out) = contentLines out := by
  induction out using dropBlankLines.induct with
  | case1 out h ih =>
      obtain ⟨before, rfl⟩ := List.isSuffixOf_iff_suffix.mp h
      have hone : (before ++ ['\n', '\n']).dropLast = before ++ List.replicate 1 '\n' := by simp
      have htwo : before ++ ['\n', '\n'] = before ++ List.replicate 2 '\n' := rfl
      rw [dropBlankLines, if_pos h, ih, hone, htwo, contentLines_append_replicate,
        contentLines_append_replicate]
  | case2 out h => rw [dropBlankLines, if_neg h]

/-- The closing normalisation does not change the content. -/
theorem contentLines_closeDocument (out : List Char) :
    contentLines (closeDocument out) = contentLines out := by
  rw [closeDocument, contentLines_dropBlankLines, trimNewlines_eq, contentLines_append_replicate,
    contentLines_stripNewlines]

/-- Sections are appended from the first on. -/
theorem appendSections_cons (out : List Char) (s : Section) (sections : List Section) :
    appendSections out (s :: sections) =
      appendSections (startSection out s.heading ++ s.body) sections := rfl

/-- Sections add their headings and bodies to the content, one after the other. -/
theorem contentLines_appendSections (out : List Char) (sections : List Section) :
    contentLines (appendSections out sections) =
      contentLines out ++
        sections.flatMap fun s => contentLines s.heading ++ contentLines s.body := by
  induction sections generalizing out with
  | nil => exact (List.append_nil _).symm
  | cons s sections ih =>
      rw [appendSections_cons, ih, contentLines_startSection_append, List.flatMap_cons,
        List.append_assoc]

/-! ### Tables -/

/-- A row has no newline in it if its cells have none. -/
theorem newline_notMem_tableRow {cells : List (List Char)} (h : ∀ cell ∈ cells, '\n' ∉ cell) :
    '\n' ∉ tableRow cells := by
  have hcells : '\n' ∉ [' ', '|', ' '].intercalate cells := notMem_intercalate (by decide) h
  simp [tableRow, hcells]

/-- The rule below the titles has no newline in it. -/
theorem newline_notMem_tableRule (columns : Nat) : '\n' ∉ tableRule columns := by
  intro hmem
  rcases List.mem_cons.mp hmem with hpipe | hmem
  · exact absurd hpipe (by decide)
  · obtain ⟨dashes, hdashes, hmem⟩ := List.mem_flatten.mp hmem
    rw [List.eq_of_mem_replicate hdashes] at hmem
    exact absurd hmem (by decide)

/-- Rows that are written with their newlines are content. -/
theorem contentLines_flatMap_tableRow {rows : List (List (List Char))}
    (h : ∀ cells ∈ rows, ∀ cell ∈ cells, '\n' ∉ cell) :
    contentLines (rows.flatMap fun cells => tableRow cells ++ ['\n']) = rows.map tableRow := by
  induction rows with
  | nil => rfl
  | cons cells rows ih =>
      obtain ⟨hcells, hrows⟩ := List.forall_mem_cons.mp h
      have hrow : contentLines (tableRow cells) = [tableRow cells] :=
        contentLines_of_notMem (newline_notMem_tableRow hcells) (by simp [tableRow])
      rw [List.flatMap_cons, List.append_assoc, List.singleton_append,
        contentLines_append_newline, hrow, ih hrows]
      rfl

/-- **The lines of a table**: the titles, the rule and the rows. -/
theorem contentLines_table {titles : List String} {rows : List (List (List Char))}
    (htitles : ∀ title ∈ titles, '\n' ∉ title.toList)
    (hrows : ∀ cells ∈ rows, ∀ cell ∈ cells, '\n' ∉ cell) :
    contentLines (table titles rows) =
      tableRow (titles.map String.toList) :: tableRule titles.length :: rows.map tableRow := by
  have hcells : ∀ cell ∈ titles.map String.toList, '\n' ∉ cell := List.forall_mem_map.mpr htitles
  have hrow : contentLines (tableRow (titles.map String.toList)) =
      [tableRow (titles.map String.toList)] :=
    contentLines_of_notMem (newline_notMem_tableRow hcells) (by simp [tableRow])
  have hrule : contentLines (tableRule titles.length) = [tableRule titles.length] :=
    contentLines_of_notMem (newline_notMem_tableRule _) (by simp [tableRule])
  have hlines : table titles rows =
      tableRow (titles.map String.toList) ++ '\n' :: (tableRule titles.length ++
        '\n' :: rows.flatMap fun cells => tableRow cells ++ ['\n']) := by
    simp [table]
  rw [hlines, contentLines_append_newline, contentLines_append_newline, hrow, hrule,
    contentLines_flatMap_tableRow hrows]
  rfl

end Reference

end Lexicon
