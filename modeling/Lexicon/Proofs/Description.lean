import Lexicon.Program
import Lexicon.Proofs.Lines
import Lexicon.Proofs.Quoting

/-!
# Descriptions Are Framed by Lines

A description begins with the quoted spelling and ends in what the spelling is. It stays on one
line, because quoting leaves no newline in the spelling and the names of kinds have none. And it
tells the spelling, because a quoted text delimits itself: whatever the spelling contains, be it an
arrow or quotation marks, the part behind it is not needed to find its end.

The command that classifies spellings writes one description per line, so its output can be cut
into lines and every line can be read back.

## Main results

* `newline_notMem_describe`: a description is one line.
* `describe_injective`: a description tells the spelling.
* `classifyText_framed_injective`: **the output of the command is framed by lines** and tells the
  list of spellings.
-/

namespace Lexicon

/-! ### Names -/

/-- The name of a reserved word consists of letters. -/
theorem Keyword.all_isAlpha_name (k : Keyword) : k.name.toList.all Char.isAlpha = true := by
  cases k <;> rfl

/-- The name of a mode consists of letters. -/
theorem Mode.all_isAlpha_name (m : Mode) : m.name.toList.all Char.isAlpha = true := by
  cases m <;> rfl

/-- The name of a tag consists of letters. -/
theorem Tag.all_isAlpha_name (t : Tag) : t.name.toList.all Char.isAlpha = true := by
  cases t with
  | symbol s => cases s <;> rfl
  | marker m => cases m <;> rfl
  | _ => rfl

/-- What is no letter does not occur in a text of letters. -/
theorem notMem_of_all_isAlpha {text : List Char} {c : Char} (h : text.all Char.isAlpha = true)
    (hc : c.isAlpha = false) : c ∉ text := by
  intro hmem
  exact Bool.false_ne_true (hc.symm.trans (List.all_eq_true.mp h c hmem))

/-! ### One description -/

/-- A kind with its payload is shown on one line. -/
theorem Kind.newline_notMem_debug (k : Kind) : '\n' ∉ k.debug.toList := by
  cases k with
  | character b =>
      have hdigits : '\n' ∉ Nat.toDigits 10 b.toNat := notMem_toDigits (by decide) (by simp)
      simp [debug, hdigits]
  | keyword w =>
      have hname : '\n' ∉ w.name.toList := notMem_of_all_isAlpha w.all_isAlpha_name rfl
      simp [debug, hname]
  | mode m =>
      have hname : '\n' ∉ m.name.toList := notMem_of_all_isAlpha m.all_isAlpha_name rfl
      simp [debug, hname]
  | symbol s => exact notMem_of_all_isAlpha (Tag.symbol s).all_isAlpha_name rfl
  | marker m => exact notMem_of_all_isAlpha (Tag.marker m).all_isAlpha_name rfl
  | _ => simp [debug, newline_notMem_quote]

/-- The report on a classification stays on one line. -/
theorem Classification.newline_notMem_report (c : Classification) : '\n' ∉ c.report.toList := by
  cases c with
  | whole k => exact k.newline_notMem_debug
  | perByte tags =>
      have hnames : '\n' ∉ [',', ' '].intercalate ((tags.map Tag.name).map String.toList) := by
        refine notMem_intercalate (by decide) fun part hpart => ?_
        obtain ⟨name, hname, rfl⟩ := List.mem_map.mp hpart
        obtain ⟨t, -, rfl⟩ := List.mem_map.mp hname
        exact notMem_of_all_isAlpha t.all_isAlpha_name rfl
      simp only [report, String.toList_append, String.toList_intercalate, List.mem_append, not_or]
      exact ⟨⟨by decide, hnames⟩, by decide⟩

/-- The characters of a description: the quoted spelling comes first. -/
theorem toList_describe (s : String) :
    (describe s).toList =
      (quote s).toList ++ ([' ', '=', '>', ' '] ++ (classify s).report.toList) := by
  simp [describe_eq]

/-- **A description is one line.** -/
theorem newline_notMem_describe (s : String) : '\n' ∉ (describe s).toList := by
  rw [toList_describe, List.mem_append, List.mem_append, not_or, not_or]
  exact ⟨newline_notMem_quote s, by decide, (classify s).newline_notMem_report⟩

/-- **A description tells the spelling.** -/
theorem describe_injective : Function.Injective describe := by
  intro s t h
  rw [← String.toList_inj, toList_describe, toList_describe] at h
  exact (prefixFree_quote s t _ _ h).1

/-! ### The output of the command -/

/-- The output of the command has one line for each spelling, and ends in a newline. -/
theorem splitLines_classifyText (spellings : List String) :
    splitLines (classifyText spellings) = spellings.map describe ++ [""] := by
  refine splitLines_unlines fun line hline => ?_
  obtain ⟨s, -, rfl⟩ := List.mem_map.mp hline
  exact newline_notMem_describe s

/-- The output of the command tells the spellings. -/
theorem classifyText_injective : Function.Injective classifyText := by
  intro spellings spellings' h
  have hlines := congrArg splitLines h
  rw [splitLines_classifyText, splitLines_classifyText] at hlines
  exact describe_injective.list_map (List.append_cancel_right hlines)

/-- A spelling that looks like two descriptions is described on one line. -/
example : classifyText ["a\" => x\n\"b", "+"] =
    "\"a\\\" => x\\n\\\"b\" => bytes [Illegal, Illegal, Illegal, Assign, Greater, Illegal, "
      ++ "Illegal, Newline, Illegal, Illegal]\n\"+\" => Plus\n" := by
  decide +kernel

end Lexicon
