import Lexicon.Text.Basic

/-!
# Lines Can Be Read Back

Lines without newlines that are written one after the other, each with its newline, are the pieces
that cutting at the newlines gives back, up to the empty piece behind the last newline. So the lines
are known from the text.

A document is read with less attention to its layout: its **content** are its lines that are not
blank. Blank lines may come and go without changing it.

## Main results

* `splitLines_unlines`: lines are read back from the text they make.
* `contentLines_append_newline`, `contentLines_append_replicate`: how the content of a text follows
  from that of its parts.
-/

namespace Lexicon

/-- A character that is neither in the separator nor in the parts is not in the joined text. -/
theorem notMem_intercalate {c : Char} {sep : List Char} {parts : List (List Char)}
    (hsep : c ∉ sep) (hparts : ∀ part ∈ parts, c ∉ part) : c ∉ sep.intercalate parts := by
  induction parts with
  | nil => simp
  | cons part parts ih =>
      obtain ⟨hpart, hparts⟩ := List.forall_mem_cons.mp hparts
      cases parts with
      | nil => simpa using hpart
      | cons next parts =>
          rw [List.intercalate_cons_cons, List.mem_append, List.mem_append, not_or, not_or]
          exact ⟨⟨hpart, hsep⟩, ih hparts⟩

/-! ### All lines -/

/-- Cutting at newlines gives back lines that have none, before the pieces of what follows. -/
theorem splitOn_lineChars_append {lines : List String} (h : ∀ line ∈ lines, '\n' ∉ line.toList)
    (rest : List Char) :
    (lineChars lines ++ rest).splitOn '\n' = lines.map String.toList ++ rest.splitOn '\n' := by
  induction lines with
  | nil => rfl
  | cons line lines ih =>
      obtain ⟨hline, hlines⟩ := List.forall_mem_cons.mp h
      have hcons : lineChars (line :: lines) ++ rest =
          line.toList ++ '\n' :: (lineChars lines ++ rest) := by
        simp [lineChars]
      rw [hcons, List.splitOn_append_cons_self_of_not_mem hline, ih hlines]
      rfl

/-- **Lines are read back** from the text they make; the last newline leaves an empty piece. -/
theorem splitLines_unlines {lines : List String} (h : ∀ line ∈ lines, '\n' ∉ line.toList) :
    splitLines (unlines lines) = lines ++ [""] := by
  have hsplit := splitOn_lineChars_append h []
  rw [List.append_nil] at hsplit
  rw [splitLines, unlines, String.toList_ofList, hsplit]
  simp

/-! ### Lines that are not blank -/

/-- The **content** of a text: its lines, without the blank ones. -/
def contentLines (text : List Char) : List (List Char) :=
  (text.splitOn '\n').filter (· ≠ [])

/-- The empty text has no content. -/
@[simp] theorem contentLines_nil : contentLines [] = [] := rfl

/-- A newline separates the content before it from the content behind it. -/
theorem contentLines_append_newline (x y : List Char) :
    contentLines (x ++ '\n' :: y) = contentLines x ++ contentLines y := by
  rw [contentLines, List.splitOn_append_cons_self, List.filter_append]
  rfl

/-- Newlines at the end do not change the content. -/
theorem contentLines_append_replicate (x : List Char) (n : Nat) :
    contentLines (x ++ List.replicate n '\n') = contentLines x := by
  induction n with
  | zero => rw [List.replicate_zero, List.append_nil]
  | succ n ih =>
      rw [List.replicate_succ', ← List.append_assoc, contentLines_append_newline, ih,
        contentLines_nil, List.append_nil]

/-- A single line is its own content, unless it is blank. -/
theorem contentLines_of_notMem {x : List Char} (hx : '\n' ∉ x) (hne : x ≠ []) :
    contentLines x = [x] := by
  rw [contentLines, List.splitOn_eq_singleton hx]
  simp [hne]

/-- Lines that are written with their newlines are content, unless they are blank. -/
theorem contentLines_lineChars_append {lines : List String}
    (h : ∀ line ∈ lines, '\n' ∉ line.toList) (rest : List Char) :
    contentLines (lineChars lines ++ rest) =
      (lines.map String.toList).filter (· ≠ []) ++ contentLines rest := by
  rw [contentLines, splitOn_lineChars_append h, List.filter_append]
  rfl

end Lexicon
