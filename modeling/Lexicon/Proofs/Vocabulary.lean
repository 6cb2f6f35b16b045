import Lexicon.Classify
import Lexicon.Proofs.Lookup

/-!
# One Spelling, One Kind

Reserved words, modes and symbols are looked up one vocabulary after the other, and rendering goes
the other way. This module proves the two inverse to each other on the kinds that belong to a
vocabulary. What makes it work is that the vocabularies share no spelling: reserved words and modes
have the shape of identifiers and symbols never have it, so only the two vocabularies of words
could meet, and no mode is a reserved word.

## Main results

* `Keyword.isIdentifier_spelling`, `Mode.isIdentifier_spelling`, `Symbol.isIdentifier_spelling`:
  words look like identifiers, symbols do not.
* `Kind.ofSpelling?_eq_some_iff`: a spelling resolves to a kind exactly when the kind belongs to a
  vocabulary and renders as that spelling.
* `Kind.toList_ofSpelling?`: look-up finds what the three vocabularies find together.
* `Kind.ofSpelling?_inverts_render`: **look-up and rendering are inverse** to each other; nothing
  outside the vocabularies is ever found, and no two kinds of the vocabularies render alike.
-/

namespace Lexicon

/-! ### The vocabularies share no spelling -/

/-- Reserved words have the shape of identifiers. -/
theorem Keyword.isIdentifier_spelling (k : Keyword) : isIdentifier k.spelling = true := by
  cases k <;> decide

/-- Modes have the shape of identifiers. -/
theorem Mode.isIdentifier_spelling (m : Mode) : isIdentifier m.spelling = true := by
  cases m <;> decide

/-- Symbols do not have the shape of identifiers. -/
theorem Symbol.isIdentifier_spelling (s : Symbol) : isIdentifier s.spelling = false := by
  cases s <;> decide

/-- No reserved word is spelled like a mode. -/
theorem Keyword.spelling_ne_mode (k : Keyword) (m : Mode) : k.spelling ≠ m.spelling := by
  cases m <;> cases k <;> decide

/-- A spelling without the shape of an identifier is no reserved word. -/
theorem Keyword.ofSpelling?_eq_none_of_not_isIdentifier {s : String}
    (h : isIdentifier s = false) : Keyword.ofSpelling? s = none := by
  refine Option.eq_none_iff_forall_ne_some.mpr fun k hk => ?_
  have hid := k.isIdentifier_spelling
  rw [Keyword.ofSpelling?_eq_some_iff.mp hk, h] at hid
  exact Bool.false_ne_true hid

/-- A spelling without the shape of an identifier is no mode. -/
theorem Mode.ofSpelling?_eq_none_of_not_isIdentifier {s : String}
    (h : isIdentifier s = false) : Mode.ofSpelling? s = none := by
  refine Option.eq_none_iff_forall_ne_some.mpr fun m hm => ?_
  have hid := m.isIdentifier_spelling
  rw [Mode.ofSpelling?_eq_some_iff.mp hm, h] at hid
  exact Bool.false_ne_true hid

/-- The spelling of a mode is no reserved word. -/
theorem Mode.keyword_ofSpelling?_spelling (m : Mode) : Keyword.ofSpelling? m.spelling = none := by
  refine Option.eq_none_iff_forall_ne_some.mpr fun k hk => ?_
  exact k.spelling_ne_mode m (Keyword.ofSpelling?_eq_some_iff.mp hk)

/-! ### Look-up against rendering -/

namespace Kind

/-- A kind **belongs to a vocabulary** when it is a reserved word, a mode or a symbol. -/
def InVocabulary (k : Kind) : Prop :=
  k.keyword?.isSome ∨ k.mode?.isSome ∨ k.isSymbol

instance (k : Kind) : Decidable k.InVocabulary :=
  inferInstanceAs (Decidable (_ ∨ _ ∨ _))

/-- Look-up finds every reserved word under its rendering. -/
theorem ofSpelling?_keyword (k : Keyword) : ofSpelling? k.spelling = some (keyword k) := by
  rw [ofSpelling?, Keyword.ofSpelling?_eq_some_iff.mpr rfl]

/-- Look-up finds every mode under its rendering. -/
theorem ofSpelling?_mode (m : Mode) : ofSpelling? m.spelling = some (mode m) := by
  rw [ofSpelling?, m.keyword_ofSpelling?_spelling]
  simp only [Mode.ofSpelling?_eq_some_iff.mpr rfl]

/-- Look-up finds every symbol under its rendering. -/
theorem ofSpelling?_symbol (s : Symbol) : ofSpelling? s.spelling = some (symbol s) := by
  have hk := Keyword.ofSpelling?_eq_none_of_not_isIdentifier s.isIdentifier_spelling
  have hm := Mode.ofSpelling?_eq_none_of_not_isIdentifier s.isIdentifier_spelling
  have hs : Symbol.ofBytes? (utf8 s.spelling) = some s := Symbol.ofBytes?_eq_some_iff.mpr rfl
  simp only [ofSpelling?, hk, hm, hs, Option.map_some]

/-- Whatever look-up finds belongs to a vocabulary and renders as the spelling it was found
under. -/
theorem inVocabulary_and_render_of_ofSpelling? {s : String} {k : Kind}
    (h : ofSpelling? s = some k) : k.InVocabulary ∧ k.render = s := by
  rw [ofSpelling?] at h
  split at h
  next w hw =>
    obtain rfl := Option.some.inj h
    exact ⟨.inl rfl, Keyword.ofSpelling?_eq_some_iff.mp hw⟩
  next =>
    split at h
    next m hm =>
      obtain rfl := Option.some.inj h
      exact ⟨.inr (.inl rfl), Mode.ofSpelling?_eq_some_iff.mp hm⟩
    next =>
      obtain ⟨t, ht, rfl⟩ := Option.map_eq_some_iff.mp h
      have hbytes : utf8 t.spelling = utf8 s := Symbol.ofBytes?_eq_some_iff.mp ht
      exact ⟨.inr (.inr rfl), utf8_inj.mp hbytes⟩

/-- Look-up finds every kind of the vocabularies under its rendering. -/
theorem ofSpelling?_render {k : Kind} (h : k.InVocabulary) : ofSpelling? k.render = some k := by
  cases k with
  | keyword w => exact ofSpelling?_keyword w
  | mode m => exact ofSpelling?_mode m
  | symbol s => exact ofSpelling?_symbol s
  | _ => exact absurd h (by simp [InVocabulary, keyword?, mode?, isSymbol_eq])

/-- A spelling resolves to a kind exactly when the kind belongs to a vocabulary and renders as
that spelling. -/
theorem ofSpelling?_eq_some_iff {s : String} {k : Kind} :
    ofSpelling? s = some k ↔ k.InVocabulary ∧ k.render = s := by
  constructor
  · exact inVocabulary_and_render_of_ofSpelling?
  · rintro ⟨hk, rfl⟩
    exact ofSpelling?_render hk

/-- What look-up finds is what the three vocabularies find together: at most one of them finds
anything. -/
theorem toList_ofSpelling? (s : String) :
    (ofSpelling? s).toList =
      (Keyword.ofSpelling? s).toList.map keyword ++ (Mode.ofSpelling? s).toList.map mode ++
        (Symbol.ofBytes? (utf8 s)).toList.map symbol := by
  have hsymbol (hid : Lexicon.isIdentifier s = true) : Symbol.ofBytes? (utf8 s) = none := by
    refine Option.eq_none_iff_forall_ne_some.mpr fun t ht => ?_
    have hspelling : t.spelling = s := utf8_inj.mp (Symbol.ofBytes?_eq_some_iff.mp ht)
    rw [← hspelling, t.isIdentifier_spelling] at hid
    exact Bool.false_ne_true hid
  rcases hk : Keyword.ofSpelling? s with _ | w
  · rcases hm : Mode.ofSpelling? s with _ | m
    · simp only [ofSpelling?, hk, hm]
      cases Symbol.ofBytes? (utf8 s) <;> rfl
    · have hid := Mode.ofSpelling?_eq_some_iff.mp hm ▸ m.isIdentifier_spelling
      simp only [ofSpelling?, hk, hm, hsymbol hid]
      rfl
  · have hspelling := Keyword.ofSpelling?_eq_some_iff.mp hk
    have hid := hspelling ▸ w.isIdentifier_spelling
    have hm : Mode.ofSpelling? s = none := by
      refine Option.eq_none_iff_forall_ne_some.mpr fun m hm => ?_
      exact w.spelling_ne_mode m (hspelling.trans (Mode.ofSpelling?_eq_some_iff.mp hm).symm)
    simp only [ofSpelling?, hk, hm, hsymbol hid]
    rfl

/-- Kinds of the vocabularies are neither identifiers, nor literals, nor markers. -/
theorem InVocabulary.not_payload_not_marker {k : Kind} (h : k.InVocabulary) :
    k.isIdentifier = false ∧ k.isLiteral = false ∧ k.isMarker = false := by
  cases k <;> simp_all [InVocabulary, keyword?, mode?, isSymbol_eq, isIdentifier, isLiteral, isMarker]

/-- **Look-up and rendering are inverse to each other** on the kinds of the vocabularies. Look-up
never yields an identifier, a literal or a marker; it resolves the rendering of every kind of the
vocabularies back to that kind; and no two of these kinds render alike. -/
theorem ofSpelling?_inverts_render :
    (∀ (s : String) (k : Kind), ofSpelling? s = some k ↔ k.InVocabulary ∧ k.render = s) ∧
      (∀ (s : String) (k : Kind), ofSpelling? s = some k →
        k.isIdentifier = false ∧ k.isLiteral = false ∧ k.isMarker = false) ∧
      (∀ k : Kind, k.InVocabulary → ofSpelling? k.render = some k) ∧
      ∀ k l : Kind, k.InVocabulary → l.InVocabulary → k.render = l.render → k = l := by
  refine ⟨fun s k => ofSpelling?_eq_some_iff, fun s k h => ?_, fun k => ofSpelling?_render,
    fun k l hk hl h => ?_⟩
  · exact (ofSpelling?_eq_some_iff.mp h).1.not_payload_not_marker
  · have hkl : some k = some l := by
      rw [← ofSpelling?_render hk, ← ofSpelling?_render hl, h]
    exact Option.some.inj hkl

end Kind

end Lexicon
