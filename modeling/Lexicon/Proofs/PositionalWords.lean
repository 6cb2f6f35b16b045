import Lexicon.CommandLine.Parse

/-!
# The Positional Words of a Command

The commands that take plain words read them from the left. Two dashes alone are the **terminator**:
they are dropped, and every word behind them is plain, even if it looks like an option or is two
dashes again. Before the terminator a word that looks like an option is none of the command's own,
so reading stops there.

This gives the grammar of such a command: it accepts exactly the lists in which no word before the
terminator looks like an option and the plain words are as many as it takes, and it then takes all
of them, in order.

## Main definitions

* `OptionLike`: a word that begins with a dash and is not a lone dash.
* `CommandLine.beforeTerminator`, `CommandLine.afterTerminator`: the words on either side of the
  first terminator.

## Main results

* `Argument.ofString_cases`: how a word reads.
* `CommandLine.readWords_eq_ok_iff`: when reading plain words succeeds, and with what.
* `CommandLine.parse_positional_grammar`: **the grammars** of the two commands that take plain
  words.
-/

namespace Lexicon

/-- A word **looks like an option**: it begins with a dash and is not a lone dash. -/
def OptionLike (w : String) : Prop :=
  w.toList.head? = some '-' ∧ w ≠ "-"

/-- What follows the dashes of a long option always reads as a long option. -/
theorem Argument.exists_ofLong_eq (rest : List Char) :
    ∃ name value, Argument.ofLong rest = .long name value := by
  rw [Argument.ofLong]
  cases rest.dropWhile (· ≠ '=') with
  | nil => exact ⟨_, _, rfl⟩
  | cons c value => exact ⟨_, _, rfl⟩

/-- **How a word reads**: two dashes are the terminator, another word that looks like an option is
one, and any other word is plain. -/
theorem Argument.ofString_cases (w : String) :
    (w = "--" ∧ Argument.ofString w = .terminator) ∨
    (w ≠ "--" ∧ OptionLike w ∧
      ((∃ name value, Argument.ofString w = .long name value) ∨
        ∃ letter rest, Argument.ofString w = .short letter rest)) ∨
    (w ≠ "--" ∧ ¬ OptionLike w ∧ Argument.ofString w = .word w) := by
  have hdashes : w = "--" ↔ w.toList = ['-', '-'] := String.toList_inj.symm
  have hdash : w = "-" ↔ w.toList = ['-'] := String.toList_inj.symm
  simp only [OptionLike, ne_eq, hdashes, hdash]
  rcases hw : w.toList with _ | ⟨c, _ | ⟨d, rest⟩⟩
  · exact .inr (.inr ⟨by simp, by simp, by rw [ofString, hw]⟩)
  · refine .inr (.inr ⟨by simp, by simp, ?_⟩)
    simp only [ofString, hw]
  · by_cases hc : c = '-'
    · subst hc
      by_cases hd : d = '-'
      · subst hd
        cases rest with
        | nil => exact .inl ⟨rfl, by simp only [ofString, hw]⟩
        | cons e rest =>
            refine .inr (.inl ⟨by simp, by simp, .inl ?_⟩)
            simp only [ofString, hw]
            exact exists_ofLong_eq _
      · refine .inr (.inl ⟨by simp [hd], by simp, .inr ⟨d, rest, ?_⟩⟩)
        simp [ofString, hw, hd]
    · refine .inr (.inr ⟨by simp [hc], by simp [hc], ?_⟩)
      simp [ofString, hw, hc]

namespace CommandLine

/-- The words before the first terminator, or all words if there is none. -/
def beforeTerminator (words : List String) : List String :=
  words.takeWhile (· ≠ "--")

/-- The words behind the first terminator, or no words if there is none. -/
def afterTerminator (words : List String) : List String :=
  (words.dropWhile (· ≠ "--")).tail

@[simp] theorem beforeTerminator_nil : beforeTerminator [] = [] := rfl

@[simp] theorem afterTerminator_nil : afterTerminator [] = [] := rfl

@[simp] theorem beforeTerminator_terminator (words : List String) :
    beforeTerminator ("--" :: words) = [] := rfl

@[simp] theorem afterTerminator_terminator (words : List String) :
    afterTerminator ("--" :: words) = words := rfl

/-- A word other than the terminator stands before it. -/
theorem beforeTerminator_cons {w : String} (h : w ≠ "--") (words : List String) :
    beforeTerminator (w :: words) = w :: beforeTerminator words := by
  simp [beforeTerminator, h]

/-- A word other than the terminator does not change what stands behind it. -/
theorem afterTerminator_cons {w : String} (h : w ≠ "--") (words : List String) :
    afterTerminator (w :: words) = afterTerminator words := by
  simp [afterTerminator, h]

/-- No words always fit. -/
@[simp] theorem fits_zero (room : Option Nat) : fits room 0 = true := by
  cases room <;> simp [fits]

/-- One more word fits exactly when a word fits and the others fit into what it leaves. -/
theorem fits_succ (room : Option Nat) (n : Nat) :
    fits room (n + 1) = (fits room 1 && fits (room.map (· - 1)) n) := by
  cases room with
  | none => rfl
  | some r =>
      simp only [fits, Option.map_some, ← Bool.decide_and, decide_eq_decide]
      omega

/-- A mapped result is a success exactly when it comes from one. -/
theorem map_eq_ok_iff {ε α β : Type} {x : Except ε α} {f : α → β} {b : β} :
    x.map f = .ok b ↔ ∃ a, x = .ok a ∧ f a = b := by
  cases x <;> simp [Except.map]

/-- **Reading plain words** succeeds exactly when no word before the terminator looks like an option
and there is room for all the others, and it yields them in order. -/
theorem readWords_eq_ok_iff {topic : Topic} {room : Option Nat} {words plain : List String} :
    readWords topic room words = .ok plain ↔
      (∀ w ∈ beforeTerminator words, ¬ OptionLike w) ∧
      fits room (beforeTerminator words ++ afterTerminator words).length = true ∧
      plain = beforeTerminator words ++ afterTerminator words := by
  induction words generalizing room plain with
  | nil => simp [readWords, eq_comm]
  | cons w words ih =>
      rcases Argument.ofString_cases w with
        ⟨rfl, hread⟩ | ⟨hne, hoption, hread⟩ | ⟨hne, hplain, hread⟩
      · -- All the words behind the terminator are plain.
        rw [readWords, hread]
        cases hfits : fits room words.length <;> simp [hfits, eq_comm]
      · -- An option is refused, whichever it is.
        have herror : readWords topic room (w :: words) ≠ .ok plain := by
          rcases hread with ⟨name, value, hread⟩ | ⟨letter, rest, hread⟩ <;>
            simp [readWords, hread]
        rw [beforeTerminator_cons hne]
        exact iff_of_false herror fun h => h.1 w List.mem_cons_self hoption
      · -- A plain word is taken if it fits, and leaves less room for the rest.
        rw [readWords, hread, beforeTerminator_cons hne, afterTerminator_cons hne, List.cons_append,
          List.length_cons, fits_succ room (List.length _), List.forall_mem_cons]
        cases hfits : fits room 1 with
        | false => simp
        | true =>
            simp only [if_true, Bool.true_and, map_eq_ok_iff, ih]
            constructor
            · rintro ⟨_, ⟨hplains, hroom, rfl⟩, rfl⟩
              exact ⟨⟨hplain, hplains⟩, hroom, rfl⟩
            · rintro ⟨⟨-, hplains⟩, hroom, rfl⟩
              exact ⟨_, ⟨hplains, hroom, rfl⟩, rfl⟩

/-! ### The two commands -/

/-- Classifying takes one or more plain words. -/
theorem parse_classify_eq_ok_iff {rest : List String} {command : Command} :
    parse ("classify" :: rest) = .ok command ↔
      ∃ spellings, readWords .classify none rest = .ok spellings ∧ spellings ≠ [] ∧
        .classify spellings = command := by
  have hparse : parse ("classify" :: rest) = readCommand "classify" rest := rfl
  rw [hparse, readCommand, if_neg (by decide), if_pos rfl]
  rcases readWords .classify none rest with stop | _ | ⟨w, ws⟩ <;> simp [bind, Except.bind]

/-- Rendering takes the first of its plain words. -/
theorem parse_render_eq_ok_iff {rest : List String} {command : Command} :
    parse ("render" :: rest) = .ok command ↔
      ∃ tag more, readWords .render (some 1) rest = .ok (tag :: more) ∧ .render tag = command := by
  have hparse : parse ("render" :: rest) = readCommand "render" rest := rfl
  rw [hparse, readCommand, if_neg (by decide), if_neg (by decide), if_pos rfl]
  rcases readWords .render (some 1) rest with stop | _ | ⟨w, ws⟩ <;> simp [bind, Except.bind]

/-- **The positional grammars.** Split the words behind a command at the first terminator.
`classify` accepts them exactly when no word before the terminator looks like an option and there is
a word on one of the two sides; its spellings are then all these words, in order. `render` accepts
them exactly when no word before the terminator looks like an option and there is exactly one word
on the two sides together, and that word is its tag. -/
theorem parse_positional_grammar (rest : List String) (command : Command) :
    (parse ("classify" :: rest) = .ok command ↔
      (∀ w ∈ beforeTerminator rest, ¬ OptionLike w) ∧
      beforeTerminator rest ++ afterTerminator rest ≠ [] ∧
      command = .classify (beforeTerminator rest ++ afterTerminator rest)) ∧
    (parse ("render" :: rest) = .ok command ↔
      (∀ w ∈ beforeTerminator rest, ¬ OptionLike w) ∧
      ∃ tag, beforeTerminator rest ++ afterTerminator rest = [tag] ∧ command = .render tag) := by
  constructor
  · rw [parse_classify_eq_ok_iff]
    constructor
    · rintro ⟨spellings, hread, hne, rfl⟩
      obtain ⟨hplain, -, rfl⟩ := readWords_eq_ok_iff.mp hread
      exact ⟨hplain, hne, rfl⟩
    · rintro ⟨hplain, hne, rfl⟩
      exact ⟨_, readWords_eq_ok_iff.mpr ⟨hplain, rfl, rfl⟩, hne, rfl⟩
  · rw [parse_render_eq_ok_iff]
    constructor
    · rintro ⟨tag, more, hread, rfl⟩
      obtain ⟨hplain, hroom, hwords⟩ := readWords_eq_ok_iff.mp hread
      rw [← hwords] at hroom ⊢
      -- There is room for one word, so nothing follows the tag.
      obtain rfl : more = [] := by simpa [fits] using hroom
      exact ⟨hplain, tag, rfl, rfl⟩
    · rintro ⟨hplain, tag, hwords, rfl⟩
      refine ⟨tag, [], readWords_eq_ok_iff.mpr ⟨hplain, ?_, hwords.symm⟩, rfl⟩
      rw [hwords]
      rfl

/-- Behind the terminator nothing is an option, not even the terminator. -/
example : parse ["classify", "a", "-", "--", "-h", "--"] =
    .ok (.classify ["a", "-", "-h", "--"]) := by
  rfl

end CommandLine

end Lexicon
