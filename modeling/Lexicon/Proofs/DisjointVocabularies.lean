import Lexicon.Proofs.Separation

/-!
# Three Disjoint Vocabularies

A spelling is looked up among the reserved words, then among the modes, then among the symbols. The
order is a habit and not a rule: `Vocabulary.find?` looks a spelling up in one vocabulary alone, and
at most one of the three finds anything, so they may be asked in any order.

Words and symbols are told apart by their bytes. A reserved word or a mode has the shape of an
identifier, while no byte of a symbol may stand in an identifier at all.

## Main definitions

* `Vocabulary`, `Vocabulary.find?`: the three vocabularies, and look-up in one of them.
* `Kind.vocabulary?`: the vocabulary that a kind belongs to.

## Main results

* `Kind.ofSpelling?_eq_some_iff_exists_find?`: look-up finds what one of the vocabularies finds.
* `Vocabulary.eq_of_find?`: no two vocabularies find anything under one spelling.
* `Vocabulary.findSome?_find?`: asking the vocabularies in any order gives the same answer.
* `Keyword.parse_iff`, `Mode.parse_iff`: when reading a word succeeds, and how it fails.
* `vocabularies_disjoint`: **the vocabularies are disjoint**, and how their spellings differ.
-/

namespace Lexicon

/-! ### One vocabulary alone -/

/-- The closed vocabularies. -/
inductive Vocabulary where
  | keywords | modes | symbols
  deriving DecidableEq

/-- The vocabulary that a kind belongs to, if it belongs to one. -/
def Kind.vocabulary? : Kind → Option Vocabulary
  | keyword _ => some .keywords
  | mode _ => some .modes
  | symbol _ => some .symbols
  | _ => none

/-- Look a spelling up in **one vocabulary alone**. -/
def Vocabulary.find? : Vocabulary → String → Option Kind
  | keywords, s => (Keyword.ofSpelling? s).map .keyword
  | modes, s => (Mode.ofSpelling? s).map .mode
  | symbols, s => (Symbol.ofBytes? (utf8 s)).map .symbol

/-- A text resolves to a symbol exactly when it is the spelling of that symbol. -/
theorem Symbol.ofBytes?_utf8_eq_some_iff {s : String} {t : Symbol} :
    Symbol.ofBytes? (utf8 s) = some t ↔ t.spelling = s := by
  rw [Symbol.ofBytes?_eq_some_iff, Symbol.bytes, utf8_inj]

/-- The kinds of the vocabularies are those that belong to one of the three. -/
theorem Kind.inVocabulary_iff {k : Kind} : k.InVocabulary ↔ ∃ v, k.vocabulary? = some v := by
  cases k <;> simp [InVocabulary, vocabulary?, keyword?, mode?, isSymbol_eq]

/-- A vocabulary finds exactly those of its kinds that render as the spelling. -/
theorem Vocabulary.find?_eq_some_iff {v : Vocabulary} {s : String} {k : Kind} :
    v.find? s = some k ↔ k.vocabulary? = some v ∧ k.render = s := by
  cases v with
  | keywords =>
      simp only [find?, Option.map_eq_some_iff, Keyword.ofSpelling?_eq_some_iff]
      cases k <;> simp [Kind.vocabulary?, Kind.render]
  | modes =>
      simp only [find?, Option.map_eq_some_iff, Mode.ofSpelling?_eq_some_iff]
      cases k <;> simp [Kind.vocabulary?, Kind.render]
  | symbols =>
      simp only [find?, Option.map_eq_some_iff, Symbol.ofBytes?_utf8_eq_some_iff]
      cases k <;> simp [Kind.vocabulary?, Kind.render]

/-! ### All vocabularies together -/

/-- Look-up finds what **one of the vocabularies** finds. -/
theorem Kind.ofSpelling?_eq_some_iff_exists_find? {s : String} {k : Kind} :
    Kind.ofSpelling? s = some k ↔ ∃ v : Vocabulary, v.find? s = some k := by
  simp only [Kind.ofSpelling?_eq_some_iff, Kind.inVocabulary_iff, Vocabulary.find?_eq_some_iff,
    exists_and_right]

namespace Vocabulary

/-- **No two vocabularies** find anything under one spelling. -/
theorem eq_of_find? {v w : Vocabulary} {s : String} {k l : Kind} (hk : v.find? s = some k)
    (hl : w.find? s = some l) : v = w := by
  have hkl : some k = some l := by
    rw [← Kind.ofSpelling?_eq_some_iff_exists_find?.mpr ⟨v, hk⟩,
      ← Kind.ofSpelling?_eq_some_iff_exists_find?.mpr ⟨w, hl⟩]
  obtain rfl := Option.some.inj hkl
  obtain ⟨hv, -⟩ := find?_eq_some_iff.mp hk
  obtain ⟨hw, -⟩ := find?_eq_some_iff.mp hl
  exact Option.some.inj (hv.symm.trans hw)

/-- Asking the vocabularies **in any order**, even repeatedly, is look-up, provided that none is
left out. -/
theorem findSome?_find? {order : List Vocabulary} (horder : ∀ v, v ∈ order) (s : String) :
    order.findSome? (fun v => v.find? s) = Kind.ofSpelling? s := by
  cases hfound : order.findSome? fun v => v.find? s with
  | none =>
      refine (Option.eq_none_iff_forall_ne_some.mpr fun k hk => ?_).symm
      obtain ⟨v, hv⟩ := Kind.ofSpelling?_eq_some_iff_exists_find?.mp hk
      rw [List.findSome?_eq_none_iff.mp hfound v (horder v)] at hv
      exact Option.some_ne_none k hv.symm
  | some k =>
      obtain ⟨v, -, hv⟩ := List.exists_of_findSome?_eq_some hfound
      exact (Kind.ofSpelling?_eq_some_iff_exists_find?.mpr ⟨v, hv⟩).symm

end Vocabulary

/-! ### Words and symbols -/

/-- Whatever is a reserved word or a mode has the shape of an identifier. -/
theorem isIdentifier_of_word {s : String}
    (h : (Keyword.ofSpelling? s).isSome ∨ (Mode.ofSpelling? s).isSome) : isIdentifier s = true := by
  rcases h with h | h
  · obtain ⟨k, hk⟩ := Option.isSome_iff_exists.mp h
    exact Keyword.ofSpelling?_eq_some_iff.mp hk ▸ k.isIdentifier_spelling
  · obtain ⟨m, hm⟩ := Option.isSome_iff_exists.mp h
    exact Mode.ofSpelling?_eq_some_iff.mp hm ▸ m.isIdentifier_spelling

/-- No byte of a symbol may stand in an identifier. -/
theorem isIdentifierPart_of_symbol {s : String} (h : (Symbol.ofBytes? (utf8 s)).isSome) {b : UInt8}
    (hb : b ∈ utf8 s) : isIdentifierPart b = false := by
  obtain ⟨t, ht⟩ := Option.isSome_iff_exists.mp h
  rw [← Symbol.ofBytes?_eq_some_iff.mp ht] at hb
  exact Symbol.isIdentifierPart_of_mem_bytes hb

/-! ### Reading a word -/

/-- A look-up that finds exactly the entry with a spelling, and refuses where there is none. -/
theorem refused_iff_of_lookup {α ε : Type} {spelling : α → String} {s : String}
    {found : Option α} (hfound : ∀ a, found = some a ↔ spelling a = s) {refusal : ε}
    {outcome : Except ε α} (houtcome : outcome = found.elim (.error refusal) .ok) :
    (∀ a, outcome = .ok a ↔ spelling a = s) ∧
      ∀ e, outcome = .error e ↔ (∀ a, spelling a ≠ s) ∧ e = refusal := by
  subst houtcome
  simp only [ne_eq, ← hfound]
  cases found with
  | none => simp [eq_comm]
  | some a => simp

/-- Reading a reserved word succeeds exactly at its spelling, and a refusal carries the spelling
that was given. -/
theorem Keyword.parse_iff (s : String) :
    (∀ k, Keyword.parse s = .ok k ↔ k.spelling = s) ∧
      ∀ e, Keyword.parse s = .error e ↔ (∀ k : Keyword, k.spelling ≠ s) ∧ e = ⟨s⟩ := by
  refine refused_iff_of_lookup (fun k => Keyword.ofSpelling?_eq_some_iff) ?_
  rw [Keyword.parse]
  cases Keyword.ofSpelling? s <;> rfl

/-- Reading a mode succeeds exactly at its spelling, and a refusal carries the spelling that was
given. -/
theorem Mode.parse_iff (s : String) :
    (∀ m, Mode.parse s = .ok m ↔ m.spelling = s) ∧
      ∀ e, Mode.parse s = .error e ↔ (∀ m : Mode, m.spelling ≠ s) ∧ e = ⟨s⟩ := by
  refine refused_iff_of_lookup (fun m => Mode.ofSpelling?_eq_some_iff) ?_
  rw [Mode.parse]
  cases Mode.ofSpelling? s <;> rfl

/-- **The vocabularies are disjoint.** Under every spelling at most one of them finds anything, so
asking them in any order is look-up. Reserved words and modes have the shape of identifiers, while
no byte of a symbol is a letter, a digit or an underscore. Reading a reserved word or a mode
succeeds exactly at its spelling, and otherwise the refusal carries the spelling as it was
given. -/
theorem vocabularies_disjoint (s : String) :
    (∀ v w : Vocabulary, (v.find? s).isSome → (w.find? s).isSome → v = w) ∧
    (∀ order : List Vocabulary, (∀ v, v ∈ order) →
      order.findSome? (fun v => v.find? s) = Kind.ofSpelling? s) ∧
    ((Keyword.ofSpelling? s).isSome ∨ (Mode.ofSpelling? s).isSome → isIdentifier s = true) ∧
    ((Symbol.ofBytes? (utf8 s)).isSome → ∀ b ∈ utf8 s, isIdentifierPart b = false) ∧
    ((∀ k, Keyword.parse s = .ok k ↔ k.spelling = s) ∧
      ∀ e, Keyword.parse s = .error e ↔ (∀ k : Keyword, k.spelling ≠ s) ∧ e = ⟨s⟩) ∧
    (∀ m, Mode.parse s = .ok m ↔ m.spelling = s) ∧
      ∀ e, Mode.parse s = .error e ↔ (∀ m : Mode, m.spelling ≠ s) ∧ e = ⟨s⟩ := by
  refine ⟨fun v w hv hw => ?_, fun order horder => Vocabulary.findSome?_find? horder s,
    isIdentifier_of_word, fun h b hb => isIdentifierPart_of_symbol h hb, Keyword.parse_iff s,
    Mode.parse_iff s⟩
  obtain ⟨k, hk⟩ := Option.isSome_iff_exists.mp hv
  obtain ⟨l, hl⟩ := Option.isSome_iff_exists.mp hw
  exact Vocabulary.eq_of_find? hk hl

/-- Asking for a mode from the other end. -/
example : [Vocabulary.symbols, .modes, .keywords].findSome? (fun v => v.find? "mut") =
    some (.mode .mutable) := by
  decide +kernel

end Lexicon
