import Lexicon.Proofs.PositionalWords

/-!
# The Forms of the Output Option

The output option can be written in five forms: with a short or a long name, and with its value in
the next word, behind an equals sign, or, after the short name, in the same word. A value in the
next word stays pending until the next option or the end is reached, while a value in the same word
is accepted at once, so the forms take different ways through the reader.

They still mean the same. What is pending is settled before the next option is looked at, so the
value of an option is accepted, in either way, after everything before it and before everything
behind it. Reading options is therefore **accepting their values in order**, and accepting a second
value fails, whatever the two values are and in whichever forms they are given.

## Main definitions

* `OutputForm`, `OutputForm.words`: the five forms, and the words of an option.
* `PlainValue`: a value that can be given in all of them.

## Main results

* `CommandLine.readOutput_words_append`: what reading one option does, in any form.
* `CommandLine.readOutput_options`: reading options is accepting their values in order.
* `CommandLine.parse_vocab_options`: the outcome depends on the number of options and on the value,
  not on the forms.
* `CommandLine.parse_vocab_output_forms`: **all forms of the option agree**, and none overrides
  another.
-/

namespace Lexicon

/-! ### Forms and values -/

/-- The forms in which the output option is written. -/
inductive OutputForm where
  /-- The letter, and the value in the next word. -/
  | shortDetached
  /-- The letter, and the value in the same word. -/
  | shortAttached
  /-- The letter, an equals sign and the value. -/
  | shortEquals
  /-- The name, and the value in the next word. -/
  | longDetached
  /-- The name, an equals sign and the value. -/
  | longEquals
  deriving DecidableEq

/-- The words of an option with a value. -/
def OutputForm.words : OutputForm → String → List String
  | shortDetached, value => ["-o", value]
  | shortAttached, value => ["-o" ++ value]
  | shortEquals, value => ["-o=" ++ value]
  | longDetached, value => ["--output", value]
  | longEquals, value => ["--output=" ++ value]

/-- A value that can be given **in every form**: it is not empty, and begins neither with a dash nor
with an equals sign. -/
structure PlainValue (value : String) : Prop where
  /-- There is a value. -/
  ne_empty : value ≠ ""
  /-- It is not taken for an option. -/
  head_ne_dash : value.toList.head? ≠ some '-'
  /-- It does not lose an equals sign when it stands directly behind the letter. -/
  head_ne_equals : value.toList.head? ≠ some '='

namespace Argument

/-! ### How the words read -/

/-- A plain value reads as a plain word. -/
theorem ofString_of_plainValue {value : String} (h : PlainValue value) :
    ofString value = .word value := by
  rcases ofString_cases value with ⟨rfl, -⟩ | ⟨-, hoption, -⟩ | ⟨-, -, hread⟩
  · exact absurd rfl h.head_ne_dash
  · exact absurd hoption.1 h.head_ne_dash
  · exact hread

/-- Behind the letter, a value that does not begin with an equals sign is taken as it is. -/
theorem attached?_of_plainValue {value : String} (h : PlainValue value) :
    attached? value.toList = some value := by
  have hne : value.toList ≠ [] := by simpa using h.ne_empty
  have hequals := h.head_ne_equals
  obtain ⟨c, rest, hvalue⟩ := List.exists_cons_of_ne_nil hne
  rw [hvalue, List.head?_cons, ne_eq, Option.some.injEq] at hequals
  rw [← String.ofList_toList (s := value), hvalue, String.toList_ofList]
  simp [attached?, hequals]

/-- The letter with a plain value attached to it. -/
theorem output?_shortAttached {value : String} (h : PlainValue value) :
    (ofString ("-o" ++ value)).output? = some (some value) := by
  have hread : ofString ("-o" ++ value) = .short 'o' value.toList := by
    simp [ofString, String.toList_append]
  rw [hread, output?, if_pos rfl, attached?_of_plainValue h]

/-- The letter with an equals sign and any value. -/
theorem output?_shortEquals (value : String) :
    (ofString ("-o=" ++ value)).output? = some (some value) := by
  have hread : ofString ("-o=" ++ value) = .short 'o' ('=' :: value.toList) := by
    simp [ofString, String.toList_append]
  rw [hread, output?, if_pos rfl]
  simp [attached?]

/-- The name with an equals sign and any value. -/
theorem output?_longEquals (value : String) :
    (ofString ("--output=" ++ value)).output? = some (some value) := by
  have hread : ofString ("--output=" ++ value) = .long "output" (some value) := by
    simp [ofString, ofLong, String.toList_append]
  rw [hread, output?, if_pos rfl]

end Argument

namespace CommandLine

/-! ### One option -/

/-- A word with an option whose value is still to come. -/
theorem readOutput_cons_of_waiting {w : String} (h : (Argument.ofString w).output? = some none)
    (output : Option String) (pending : Pending) (ws : List String) :
    readOutput output pending (w :: ws) =
      pending.settle output >>= fun settled => readOutput settled .value ws := by
  cases hread : Argument.ofString w with
  | terminator => simp [hread, Argument.output?] at h
  | word text => simp [hread, Argument.output?] at h
  | _ =>
      rw [hread] at h
      simp only [readOutput, hread, h]

/-- A word with an option and its value. -/
theorem readOutput_cons_of_attached {w value : String}
    (h : (Argument.ofString w).output? = some (some value)) (output : Option String)
    (pending : Pending) (ws : List String) :
    readOutput output pending (w :: ws) =
      pending.settle output >>= fun settled =>
        acceptOutput settled value >>= fun accepted => readOutput accepted .nothing ws := by
  cases hread : Argument.ofString w with
  | terminator => simp [hread, Argument.output?] at h
  | word text => simp [hread, Argument.output?] at h
  | _ =>
      rw [hread] at h
      simp only [readOutput, hread, h]

/-- The word that a waiting option takes as its value. -/
theorem readOutput_value_cons {w : String} (h : Argument.ofString w = .word w)
    (output : Option String) (ws : List String) :
    readOutput output .value (w :: ws) = readOutput output (.settling w) ws := by
  rw [readOutput, h]
  simp

/-- **What reading one option does**, in any form: what was pending is settled, then the value is
accepted, and then reading goes on. The words behind the option are such that what is pending there
is settled first of all, which is what makes a detached value accepted before them. -/
theorem readOutput_words_append (form : OutputForm) {value : String} (hvalue : PlainValue value)
    {ws : List String} {next : Option String → Except Stop (Option String)}
    (hws : ∀ output pending, readOutput output pending ws = pending.settle output >>= next)
    (output : Option String) (pending : Pending) :
    readOutput output pending (form.words value ++ ws) =
      pending.settle output >>= fun settled => acceptOutput settled value >>= next := by
  have hword := Argument.ofString_of_plainValue hvalue
  have hattached {w : String} (h : (Argument.ofString w).output? = some (some value)) :
      readOutput output pending (w :: ws) =
        pending.settle output >>= fun settled => acceptOutput settled value >>= next := by
    rw [readOutput_cons_of_attached h]
    simp only [hws]
    rfl
  -- A detached value is pending when the words behind it are reached, and they settle it.
  have hdetached {w : String} (h : (Argument.ofString w).output? = some none) :
      readOutput output pending (w :: value :: ws) =
        pending.settle output >>= fun settled => acceptOutput settled value >>= next := by
    rw [readOutput_cons_of_waiting h]
    simp only [readOutput_value_cons hword, hws]
    rfl
  cases form with
  | shortDetached => exact hdetached (by decide)
  | shortAttached => exact hattached (Argument.output?_shortAttached hvalue)
  | shortEquals => exact hattached (Argument.output?_shortEquals value)
  | longDetached => exact hdetached (by decide)
  | longEquals => exact hattached (Argument.output?_longEquals value)

/-! ### Any number of options -/

/-- Reading options, in any forms, is **accepting their values in order**. -/
theorem readOutput_options {given : List (OutputForm × String)}
    (hgiven : ∀ g ∈ given, PlainValue g.2) (output : Option String) (pending : Pending) :
    readOutput output pending (given.flatMap fun g => g.1.words g.2) =
      pending.settle output >>= fun settled =>
        given.foldlM (fun accepted g => acceptOutput accepted g.2) settled := by
  induction given generalizing output pending with
  | nil =>
      rw [List.flatMap_nil, readOutput]
      cases pending.settle output <;> rfl
  | cons g given ih =>
      obtain ⟨hvalue, hgiven⟩ := List.forall_mem_cons.mp hgiven
      rw [List.flatMap_cons, readOutput_words_append g.1 hvalue (ih hgiven)]
      rfl

/-- The first value is accepted, unless it is empty. -/
theorem acceptOutput_none {value : String} (h : value ≠ "") :
    acceptOutput none value = .ok (some value) := by
  simp [acceptOutput, h]

/-- A second value is never accepted. -/
theorem acceptOutput_some (value value' : String) :
    acceptOutput (some value) value' = .error .repeatedOption := rfl

/-- The outcome depends on **how many options** there are, and on the value if there is one, but not
on the forms. -/
theorem parse_vocab_options {given : List (OutputForm × String)}
    (hgiven : ∀ g ∈ given, PlainValue g.2) :
    parse ("vocab" :: given.flatMap fun g => g.1.words g.2) =
      match given with
      | [] => .ok (.vocab none)
      | [g] => .ok (.vocab (some g.2))
      | _ :: _ :: _ => .error .repeatedOption := by
  have hparse (ws : List String) :
      parse ("vocab" :: ws) = (readOutput none .nothing ws).map .vocab := rfl
  rw [hparse, readOutput_options hgiven]
  match given with
  | [] => rfl
  | [g] =>
      have hg := hgiven g List.mem_cons_self
      simp [Pending.settle, acceptOutput_none hg.ne_empty, bind, Except.bind, pure, Except.pure,
        Except.map]
  | g :: g' :: rest =>
      have hg := hgiven g List.mem_cons_self
      simp [Pending.settle, acceptOutput_none hg.ne_empty, acceptOutput_some, bind, Except.bind,
        Except.map]

/-- **All forms of the option agree, and none overrides another.** For plain values, the option
gives its value in each of the five forms; and two options are refused as a repetition, in whichever
two of the forms and with whichever two values, be they equal or not. -/
theorem parse_vocab_output_forms {value value' : String} (hvalue : PlainValue value)
    (hvalue' : PlainValue value') (form form' : OutputForm) :
    parse ("vocab" :: form.words value) = .ok (.vocab (some value)) ∧
    parse ("vocab" :: (form.words value ++ form'.words value')) = .error .repeatedOption := by
  constructor
  · have hone : ∀ g ∈ [(form, value)], PlainValue g.2 := by simpa using hvalue
    simpa using parse_vocab_options hone
  · have htwo : ∀ g ∈ [(form, value), (form', value')], PlainValue g.2 := by
      simpa using ⟨hvalue, hvalue'⟩
    simpa using parse_vocab_options htwo

/-- A value with an equals sign, a blank and the option itself in it: it is taken whole, and a
second option with the same value is a repetition. -/
theorem parse_vocab_output_forms_blank :
    PlainValue "v=1 -o" ∧
      parse ["vocab", "-ov=1 -o"] = .ok (.vocab (some "v=1 -o")) ∧
      parse ["vocab", "-ov=1 -o", "--output", "v=1 -o"] = .error .repeatedOption := by
  have hvalue : PlainValue "v=1 -o" := ⟨by decide, by decide, by decide⟩
  exact ⟨hvalue, parse_vocab_output_forms hvalue hvalue .shortAttached .longDetached⟩

end CommandLine

end Lexicon
