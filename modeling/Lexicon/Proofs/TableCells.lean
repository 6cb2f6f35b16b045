import Lexicon.Reference.Layout

/-!
# Cells of a Table Can Be Read Back

A row of a table is read by cutting it at its free pipes, those without a backslash before them. A
cell without a free pipe is never cut, and a spelling shown as code is such a cell: every pipe in it
got a backslash. Taking that backslash away again gives back the spelling, so different spellings
have different cells, and the beginning of a row tells the spelling that the row is about.

## Main results

* `splitPipes_tableRow`, `rowCells_tableRow`: a row is cut into its cells.
* `closed_codeCell`, `closed_of_notMem`: a spelling shown as code is never cut, and neither is a
  text without pipes.
* `unescapePipes_escapePipes`, `codeCell_injective`: the spelling is read back from its cell.
* `rowStart_isPrefix_tableRow_iff`: a row begins with the cell of a spelling exactly when that is
  its first cell.
* `codeText?_codeCell`, `tableRow_codeCell_reads_back`: a row of a spelling and of texts without
  pipes is cut into exactly these cells, and the spelling is read back from its piece.
-/

namespace Lexicon

namespace Reference

/-! ### Cutting at free pipes -/

/-- Cut a text at its **free pipes**, those without a backslash before them. The flag says whether
a backslash stands before the text. -/
def splitPipes (behind : Bool) : List Char → List (List Char)
  | [] => [[]]
  | c :: rest =>
    if c = '|' ∧ behind = false then [] :: splitPipes false rest
    else (splitPipes (c = '\\') rest).modifyHead (c :: ·)

/-- A cell is **closed** when it has no free pipe, so that cutting leaves it whole. -/
def Closed (cell : List Char) : Prop :=
  splitPipes false cell = [cell]

instance (cell : List Char) : Decidable (Closed cell) :=
  inferInstanceAs (Decidable (splitPipes false cell = [cell]))

/-- A character that is no free pipe goes into the first piece. -/
theorem splitPipes_cons_of_not {c : Char} {behind : Bool} (h : ¬(c = '|' ∧ behind = false))
    (rest : List Char) :
    splitPipes behind (c :: rest) = (splitPipes (c = '\\') rest).modifyHead (c :: ·) := by
  rw [splitPipes, if_neg h]

/-- A free pipe ends the first piece. -/
theorem splitPipes_pipe (rest : List Char) :
    splitPipes false ('|' :: rest) = [] :: splitPipes false rest := by
  rw [splitPipes, if_pos ⟨rfl, rfl⟩]

/-- A text that cutting leaves whole ends at the first free pipe behind a space. -/
theorem splitPipes_append_pipe {behind : Bool} {cell : List Char}
    (h : splitPipes behind cell = [cell]) (rest : List Char) :
    splitPipes behind (cell ++ ' ' :: '|' :: rest) = (cell ++ [' ']) :: splitPipes false rest := by
  induction cell generalizing behind with
  | nil =>
      rw [List.nil_append, splitPipes_cons_of_not (by simp)]
      exact congrArg (List.modifyHead (' ' :: ·)) (splitPipes_pipe rest)
  | cons c cell ih =>
      by_cases hfree : c = '|' ∧ behind = false
      · rw [splitPipes, if_pos hfree] at h
        exact absurd (List.cons.inj h).1 (by simp)
      · rw [splitPipes_cons_of_not hfree] at h
        have hcell : splitPipes (c = '\\') cell = [cell] := by
          rcases hsplit : splitPipes (c = '\\') cell with _ | ⟨piece, pieces⟩
          · rw [hsplit] at h
            exact absurd h (by simp)
          · rw [hsplit] at h
            simpa using h
        rw [List.cons_append, splitPipes_cons_of_not hfree, ih hcell]
        rfl

/-! ### Rows -/

/-- A row that has cells: a pipe, and every cell with a space on either side and a pipe. -/
theorem tableRow_eq_flatMap {cells : List (List Char)} (h : cells ≠ []) :
    tableRow cells = '|' :: cells.flatMap fun cell => ' ' :: (cell ++ [' ', '|']) := by
  have hjoin : ' ' :: ([' ', '|', ' '].intercalate cells ++ [' ', '|']) =
      cells.flatMap fun cell => ' ' :: (cell ++ [' ', '|']) := by
    induction cells with
    | nil => exact absurd rfl h
    | cons cell cells ih =>
        cases cells with
        | nil => simp
        | cons next cells =>
            rw [List.intercalate_cons_cons, List.flatMap_cons, ← ih (by simp)]
            simp
  rw [← hjoin]
  simp [tableRow]

/-- A closed cell is one piece of the row, with its two spaces. -/
theorem splitPipes_cell_append {cell : List Char} (h : Closed cell) (rest : List Char) :
    splitPipes false (' ' :: (cell ++ [' ', '|']) ++ rest) =
      (' ' :: (cell ++ [' '])) :: splitPipes false rest := by
  have hspace : ' ' :: (cell ++ [' ', '|']) ++ rest = ' ' :: (cell ++ ' ' :: '|' :: rest) := by simp
  have hcut := splitPipes_append_pipe h rest
  rw [hspace, splitPipes_cons_of_not (by simp)]
  exact congrArg (List.modifyHead (' ' :: ·)) hcut

/-- **A row of closed cells is cut into its cells**, each with one space on either side, between two
empty pieces. -/
theorem splitPipes_tableRow {cells : List (List Char)} (hne : cells ≠ [])
    (h : ∀ cell ∈ cells, Closed cell) :
    splitPipes false (tableRow cells) =
      [] :: (cells.map fun cell => ' ' :: (cell ++ [' '])) ++ [[]] := by
  have hcut : splitPipes false (cells.flatMap fun cell => ' ' :: (cell ++ [' ', '|'])) =
      (cells.map fun cell => ' ' :: (cell ++ [' '])) ++ [[]] := by
    clear hne
    induction cells with
    | nil => rfl
    | cons cell cells ih =>
        obtain ⟨hcell, hcells⟩ := List.forall_mem_cons.mp h
        rw [List.flatMap_cons, splitPipes_cell_append hcell, ih hcells]
        rfl
  rw [tableRow_eq_flatMap hne, splitPipes_pipe, hcut]
  rfl

/-- The cells of a row: the pieces between its free pipes, without the two outer ones and without
the spaces on either side of a cell. -/
def rowCells (line : List Char) : List (List Char) :=
  ((splitPipes false line).drop 1).dropLast.map fun piece => (piece.drop 1).dropLast

/-- **The cells of a row are read back** if they are closed. -/
theorem rowCells_tableRow {cells : List (List Char)} (hne : cells ≠ [])
    (h : ∀ cell ∈ cells, Closed cell) : rowCells (tableRow cells) = cells := by
  rw [rowCells, splitPipes_tableRow hne h]
  simp [Function.comp_def]

/-! ### Spellings shown as code -/

/-- Escaped pipes are not free, so escaping leaves nothing to cut. -/
theorem splitPipes_escapePipes_append (behind : Bool) (spelling : List Char) :
    splitPipes behind (escapePipes spelling ++ ['`']) = [escapePipes spelling ++ ['`']] := by
  induction spelling generalizing behind with
  | nil => exact splitPipes_cons_of_not (by simp) []
  | cons c spelling ih =>
      by_cases hc : c = '|'
      · subst hc
        have hcons : escapePipes ('|' :: spelling) ++ ['`'] =
            '\\' :: '|' :: (escapePipes spelling ++ ['`']) := by
          simp [escapePipes]
        rw [hcons, splitPipes_cons_of_not (by simp), splitPipes_cons_of_not (by simp), ih]
        rfl
      · have hcons : escapePipes (c :: spelling) ++ ['`'] =
            c :: (escapePipes spelling ++ ['`']) := by
          simp [escapePipes, hc]
        rw [hcons, splitPipes_cons_of_not (fun hfree => hc hfree.1), ih]
        rfl

/-- **A spelling shown as code is a closed cell**, whatever pipes it has. -/
theorem closed_codeCell (spelling : List Char) : Closed (codeCell spelling) := by
  have hcut := splitPipes_escapePipes_append false spelling
  have hcons : codeCell spelling = '`' :: (escapePipes spelling ++ ['`']) := by simp [codeCell]
  rw [Closed, hcons, splitPipes_cons_of_not (by simp)]
  exact congrArg (List.modifyHead ('`' :: ·)) hcut

/-- Take away the backslash before every pipe. -/
def unescapePipes : List Char → List Char
  | [] => []
  | c :: rest =>
    if c = '\\' ∧ rest.head? = some '|' then unescapePipes rest else c :: unescapePipes rest

/-- An escaped text does not begin with a pipe. -/
theorem head?_escapePipes_ne_pipe (spelling : List Char) :
    (escapePipes spelling).head? ≠ some '|' := by
  cases spelling with
  | nil => simp [escapePipes]
  | cons c spelling =>
      by_cases hc : c = '|' <;> simp [escapePipes, hc]

/-- **Escaping pipes is undone** by taking the backslashes away. -/
theorem unescapePipes_escapePipes (spelling : List Char) :
    unescapePipes (escapePipes spelling) = spelling := by
  induction spelling with
  | nil => rfl
  | cons c spelling ih =>
      by_cases hc : c = '|'
      · subst hc
        have hcons : escapePipes ('|' :: spelling) = '\\' :: '|' :: escapePipes spelling := by
          simp [escapePipes]
        rw [hcons, unescapePipes, if_pos ⟨rfl, rfl⟩, unescapePipes, if_neg (by simp), ih]
      · have hcons : escapePipes (c :: spelling) = c :: escapePipes spelling := by
          simp [escapePipes, hc]
        rw [hcons, unescapePipes, if_neg fun h => head?_escapePipes_ne_pipe spelling h.2, ih]

/-- Different spellings have different cells. -/
theorem codeCell_injective : Function.Injective codeCell := by
  intro s t h
  have hescaped : escapePipes s = escapePipes t := by
    simpa [codeCell] using h
  rw [← unescapePipes_escapePipes s, hescaped, unescapePipes_escapePipes]

/-! ### The beginning of a row -/

/-- How a row begins that is about a given spelling. -/
def rowStart (s : String) : List Char :=
  ['|', ' '] ++ codeCell s.toList ++ [' ', '|', ' ']

/-- **A row begins with the cell of a spelling** exactly when that is its first cell. -/
theorem rowStart_isPrefix_tableRow_iff {s : String} {first second : List Char}
    {cells : List (List Char)} (h : Closed first) :
    rowStart s <+: tableRow (first :: second :: cells) ↔ first = codeCell s.toList := by
  have hrow : tableRow (first :: second :: cells) = '|' :: ' ' :: (first ++ ' ' :: '|' :: ' ' ::
      (second ++ ' ' :: '|' :: cells.flatMap fun cell => ' ' :: (cell ++ [' ', '|']))) := by
    rw [tableRow_eq_flatMap (by simp)]
    simp
  rw [hrow]
  constructor
  · rintro ⟨rest, hrest⟩
    have hcells : codeCell s.toList ++ ' ' :: '|' :: ' ' :: rest = first ++ ' ' :: '|' :: ' ' ::
        (second ++ ' ' :: '|' :: cells.flatMap fun cell => ' ' :: (cell ++ [' ', '|'])) := by
      simpa [rowStart] using hrest
    -- Both sides are cut behind their first cells.
    have hcut := congrArg (splitPipes false) hcells
    rw [splitPipes_append_pipe (closed_codeCell s.toList), splitPipes_append_pipe h] at hcut
    exact (List.append_cancel_right (List.cons.inj hcut).1).symm
  · rintro rfl
    exact ⟨second ++ ' ' :: '|' :: cells.flatMap fun cell => ' ' :: (cell ++ [' ', '|']),
      by simp [rowStart]⟩

/-! ### Reading a row back -/

/-- A text without pipes has nothing to cut. -/
theorem closed_of_notMem {cell : List Char} (h : '|' ∉ cell) : Closed cell := by
  have hcut (behind : Bool) : splitPipes behind cell = [cell] := by
    induction cell generalizing behind with
    | nil => rfl
    | cons c cell ih =>
        obtain ⟨hc, hcell⟩ := not_or.mp (mt List.mem_cons.mpr h)
        rw [splitPipes_cons_of_not fun hfree => hc hfree.1.symm, ih hcell]
        rfl
  exact hcut false

/-- Take away the two copies of a character that enclose a text. -/
def unwrap? (c : Char) (text : List Char) : Option (List Char) :=
  if text.head? = some c ∧ text.tail.getLast? = some c then some text.tail.dropLast else none

/-- An enclosed text is read back. -/
theorem unwrap?_cons_append (c : Char) (text : List Char) :
    unwrap? c (c :: (text ++ [c])) = some text := by
  simp [unwrap?]

/-- The spelling that a piece of a row shows as code: the piece without its two spaces, the
backticks inside them, and the backslash before every pipe. -/
def codeText? (piece : List Char) : Option (List Char) :=
  ((unwrap? ' ' piece).bind (unwrap? '`')).map unescapePipes

/-- **The spelling is read back from its piece.** -/
theorem codeText?_codeCell (spelling : List Char) :
    codeText? (' ' :: (codeCell spelling ++ [' '])) = some spelling := by
  have hcell : unwrap? '`' (codeCell spelling) = some (escapePipes spelling) :=
    unwrap?_cons_append '`' (escapePipes spelling)
  rw [codeText?, unwrap?_cons_append, Option.bind_some, hcell, Option.map_some,
    unescapePipes_escapePipes]

/-- **Rows are never cut inside a cell and can be read back.** A row that begins with a spelling
shown as code and goes on with texts without pipes is cut at its free pipes into one piece for each
cell, with one space on either side, between two empty pieces; this holds whatever pipes,
backslashes and backticks the spelling has. The spelling is read back from the piece of its cell, so
different spellings have different cells. -/
theorem tableRow_codeCell_reads_back :
    (∀ (s : String) (cells : List (List Char)), cells ≠ [] → (∀ cell ∈ cells, '|' ∉ cell) →
      tableRow (codeCell s.toList :: cells) =
          rowStart s ++ [' ', '|', ' '].intercalate cells ++ [' ', '|'] ∧
        splitPipes false (tableRow (codeCell s.toList :: cells)) =
          [[]] ++ [[' '] ++ codeCell s.toList ++ [' ']] ++
            (cells.map fun cell => [' '] ++ cell ++ [' ']) ++ [[]] ∧
        (splitPipes false (tableRow (codeCell s.toList :: cells)))[1]?.bind codeText? =
          some s.toList) ∧
    Function.Injective fun s : String => codeCell s.toList := by
  refine ⟨fun s cells hne hfree => ?_, fun s t h => String.toList_inj.mp (codeCell_injective h)⟩
  have hclosed : ∀ cell ∈ codeCell s.toList :: cells, Closed cell :=
    List.forall_mem_cons.mpr
      ⟨closed_codeCell s.toList, fun cell hcell => closed_of_notMem (hfree cell hcell)⟩
  have hcut := splitPipes_tableRow (List.cons_ne_nil _ _) hclosed
  refine ⟨?_, by simpa using hcut, ?_⟩
  · obtain ⟨cell, cells, rfl⟩ := List.exists_cons_of_ne_nil hne
    simp [tableRow, rowStart, List.intercalate_cons_cons]
  · rw [hcut]
    exact codeText?_codeCell s.toList

/-- A spelling with a backslash before its pipe, a backtick, and a backslash at its end, in a row
with a cell that is a backslash and an empty cell. -/
theorem tableRow_codeCell_reads_back_backslashes :
    (∀ cell ∈ [['\\'], []], '|' ∉ cell) ∧
      splitPipes false "| `\\\\|`\\` | \\ |  |".toList =
        ["".toList, " `\\\\|`\\` ".toList, " \\ ".toList, "  ".toList, "".toList] ∧
      codeText? " `\\\\|`\\` ".toList = some "\\|`\\".toList := by
  have hfree : ∀ cell ∈ [['\\'], []], '|' ∉ cell := by decide
  have hrow : tableRow (codeCell "\\|`\\".toList :: [['\\'], []]) =
      "| `\\\\|`\\` | \\ |  |".toList := by decide
  obtain ⟨-, hcut, hread⟩ :=
    tableRow_codeCell_reads_back.1 "\\|`\\" [['\\'], []] (by decide) hfree
  rw [hrow] at hcut hread
  rw [hcut] at hread
  exact ⟨hfree, hcut, hread⟩

end Reference

end Lexicon
