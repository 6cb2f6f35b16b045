import Lexicon.Proofs.Separation

/-!
# Three Sorts of Spelling

A description reports a spelling as one of three things: an entry of a vocabulary, an identifier, or
a sequence of bytes. `SpellingSort.Describes` says what the report is to be for each sort, in terms
of renderings, characters and single bytes, and without the order in which the sorts are tried.
Every text is of exactly one sort, and its description is the only line that the sort allows.

Identifiers are recognised by their bytes, but meant by their characters. The two readings agree
since a character that is not ASCII has only bytes from `0x80` on, and none of these may stand in an
identifier.

## Main definitions

* `IsEntry`, `IdentifierShape`: what a spelling may be as a whole.
* `NamesBytes`: names that stand for bytes, one for each.
* `SpellingSort`, `SpellingSort.Describes`: the three sorts and their reports.

## Main results

* `isIdentifier_iff`: recognising identifiers by bytes is right about characters.
* `SpellingSort.Describes.line_eq`: a sort allows no line but the description.
* `describe_sorts_spelling`: **every spelling is described as being of exactly one sort**.
-/

namespace Lexicon

/-! ### Identifiers by their characters -/

/-- Whether a character may begin an identifier: an ASCII letter or an underscore. -/
def isWordStart (c : Char) : Bool :=
  c.isAlpha || c = '_'

/-- Whether a character may continue an identifier: an ASCII letter or digit, or an underscore. -/
def isWordPart (c : Char) : Bool :=
  c.isAlphanum || c = '_'

/-- A text **has the shape of an identifier** when it is a character that may begin one, followed by
characters that may continue it. -/
def IdentifierShape (s : String) : Prop :=
  ∃ c rest, s.toList = c :: rest ∧ isWordStart c = true ∧ ∀ d ∈ rest, isWordPart d = true

/-- What may begin an identifier may also continue it. -/
theorem isWordPart_of_isWordStart {c : Char} (h : isWordStart c = true) : isWordPart c = true := by
  rcases Bool.or_eq_true_iff.mp h with halpha | hunderscore
  · exact Bool.or_eq_true_iff.mpr (.inl (Bool.or_eq_true_iff.mpr (.inl halpha)))
  · exact Bool.or_eq_true_iff.mpr (.inr hunderscore)

/-- Identifiers are ASCII. -/
theorem toNat_lt_of_isWordPart {c : Char} (h : isWordPart c = true) : c.toNat < 0x80 := by
  have hbound {high : UInt32} (hle : c.val ≤ high) (hhigh : high.toNat < 0x80) : c.toNat < 0x80 :=
    Nat.lt_of_le_of_lt (UInt32.le_iff_toNat_le.mp hle) hhigh
  change (((c.isUpper || c.isLower) || c.isDigit) || decide (c = '_')) = true at h
  simp only [Bool.or_eq_true, decide_eq_true_eq] at h
  rcases h with ((hupper | hlower) | hdigit) | rfl
  · obtain ⟨-, hle⟩ := of_decide_eq_true hupper
    exact hbound hle (by decide)
  · obtain ⟨-, hle⟩ := Bool.and_eq_true_iff.mp hlower
    exact hbound (of_decide_eq_true hle) (by decide)
  · obtain ⟨-, hle⟩ := Bool.and_eq_true_iff.mp hdigit
    exact hbound (of_decide_eq_true hle) (by decide)
  · decide

/-- No byte from `0x80` on may stand in an identifier. -/
theorem isIdentifierPart_of_le {b : UInt8} (h : 0x80 ≤ b.toNat) : isIdentifierPart b = false := by
  have hlow {n : UInt8} (hn : n.toNat < 0x80) : ¬ b ≤ n := by
    rw [UInt8.le_iff_toNat_le]
    omega
  have hne : b ≠ 0x5f := by
    rintro rfl
    exact absurd h (by decide)
  simp [isIdentifierPart, isIdentifierStart, hlow, hne]

/-- A property of bytes and a property of characters that agree on every ASCII number agree on an
ASCII character and its byte. -/
theorem eq_of_ascii {p : UInt8 → Bool} {q : Char → Bool}
    (hascii : ∀ n < 0x80, p (UInt8.ofNat n) = q (Char.ofNat n)) {c : Char} (h : c.toNat < 0x80) :
    p (UInt8.ofNat c.toNat) = q c := by
  rw [hascii c.toNat h, Char.ofNat_toNat]

/-- The byte of an ASCII character may begin an identifier exactly when the character may. -/
theorem isIdentifierStart_ofNat {c : Char} (h : c.toNat < 0x80) :
    isIdentifierStart (UInt8.ofNat c.toNat) = isWordStart c :=
  eq_of_ascii (by decide) h

/-- The byte of an ASCII character may continue an identifier exactly when the character may. -/
theorem isIdentifierPart_ofNat {c : Char} (h : c.toNat < 0x80) :
    isIdentifierPart (UInt8.ofNat c.toNat) = isWordPart c :=
  eq_of_ascii (by decide) h

/-- A character that is not ASCII begins with a byte that may not stand in an identifier. -/
theorem exists_utf8EncodeChar_of_le {c : Char} (h : 0x80 ≤ c.toNat) :
    ∃ b bs, String.utf8EncodeChar c = b :: bs ∧ isIdentifierPart b = false := by
  obtain ⟨b, bs, hb⟩ := List.exists_cons_of_ne_nil (String.utf8EncodeChar_ne_nil (c := c))
  have hle : 0x80 ≤ b.toNat := le_toNat_of_mem_utf8EncodeChar h (hb ▸ List.mem_cons_self)
  exact ⟨b, bs, hb, isIdentifierPart_of_le hle⟩

/-- The bytes of a character may continue an identifier exactly when the character may. -/
theorem all_isIdentifierPart_utf8EncodeChar (c : Char) :
    (String.utf8EncodeChar c).all isIdentifierPart = isWordPart c := by
  by_cases h : c.toNat < 0x80
  · rw [utf8EncodeChar_of_lt h, List.all_cons, List.all_nil, Bool.and_true,
      isIdentifierPart_ofNat h]
  · have hpart : isWordPart c = false := Bool.eq_false_iff.mpr (mt toNat_lt_of_isWordPart h)
    obtain ⟨b, bs, hb, hfalse⟩ := exists_utf8EncodeChar_of_le (Nat.not_lt.mp h)
    rw [hpart, hb, List.all_cons, hfalse, Bool.false_and]

/-- Recognising an identifier, one character at a time. -/
theorem isIdentifier_of_toList {s : String} {c : Char} {rest : List Char}
    (h : s.toList = c :: rest) :
    isIdentifier s = (isWordStart c && rest.all isWordPart) := by
  have hrest : (rest.flatMap String.utf8EncodeChar).all isIdentifierPart = rest.all isWordPart := by
    simp only [List.all_flatMap, all_isIdentifierPart_utf8EncodeChar]
  rw [isIdentifier, utf8, h, List.flatMap_cons]
  by_cases hascii : c.toNat < 0x80
  · simp only [utf8EncodeChar_of_lt hascii, List.singleton_append, isIdentifierStart_ofNat hascii,
      hrest]
  · have hstart : isWordStart c = false := by
      refine Bool.eq_false_iff.mpr fun hc => hascii ?_
      exact toNat_lt_of_isWordPart (isWordPart_of_isWordStart hc)
    obtain ⟨b, bs, hb, hfalse⟩ := exists_utf8EncodeChar_of_le (Nat.not_lt.mp hascii)
    have hbyte : isIdentifierStart b = false := (Bool.or_eq_false_iff.mp hfalse).1
    simp only [hb, List.cons_append, hbyte, hstart, Bool.false_and]

/-- **Recognising identifiers by their bytes is right about their characters.** -/
theorem isIdentifier_iff {s : String} : isIdentifier s = true ↔ IdentifierShape s := by
  constructor
  · intro h
    rcases hs : s.toList with _ | ⟨c, rest⟩
    · simp [isIdentifier, utf8, hs] at h
    · rw [isIdentifier_of_toList hs, Bool.and_eq_true, List.all_eq_true] at h
      exact ⟨c, rest, hs, h⟩
  · rintro ⟨c, rest, hs, hstart, hrest⟩
    rw [isIdentifier_of_toList hs, hstart, Bool.true_and]
    exact List.all_eq_true.mpr hrest

/-! ### The sorts and their reports -/

/-- A text is **an entry** when it is the spelling of a reserved word, of a mode or of a symbol. -/
def IsEntry (s : String) : Prop :=
  (∃ k : Keyword, k.spelling = s) ∨ (∃ m : Mode, m.spelling = s) ∨ ∃ t : Symbol, t.spelling = s

/-- Names **stand for bytes**, one for each. -/
structure NamesBytes (names : List String) (bytes : List UInt8) : Prop where
  /-- There are as many names as bytes. -/
  length_eq : names.length = bytes.length
  /-- Each name is that of the kind of the byte at its place. -/
  getElem?_eq : ∀ (i : Nat) (b : UInt8), bytes[i]? = some b →
    names[i]? = some (Kind.ofByte b).tag.name
  /-- Each byte is a symbol by itself or a marker. -/
  symbol_or_marker : ∀ b ∈ bytes,
    (∃ t : Symbol, t.bytes = [b] ∧ Kind.ofByte b = .symbol t) ∨
      ∃ m : Marker, Kind.ofByte b = .marker m

/-- What a spelling may be reported as. -/
inductive SpellingSort where
  /-- An entry of a vocabulary. -/
  | entry
  /-- An identifier. -/
  | identifier
  /-- A sequence of bytes. -/
  | bytes
  deriving DecidableEq

/-- **When a line reports a spelling as being of a sort.** An entry is reported with the one kind of
the vocabularies that renders as it; an identifier is no entry, but has the shape of an identifier;
and bytes are neither. -/
def SpellingSort.Describes (s line : String) : SpellingSort → Prop
  | entry => IsEntry s ∧ ∃ k : Kind, (k.InVocabulary ∧ k.render = s) ∧
      (∀ l : Kind, l.InVocabulary → l.render = s → l = k) ∧
      line = quote s ++ " => " ++ k.debug
  | identifier => ¬ IsEntry s ∧ IdentifierShape s ∧
      line = quote s ++ " => " ++ (Kind.identifier s).debug
  | bytes => ¬ IsEntry s ∧ ¬ IdentifierShape s ∧ ∃ names : List String,
      NamesBytes names (utf8 s) ∧
      line = quote s ++ " => bytes [" ++ String.intercalate ", " names ++ "]"

/-- The entries are what the kinds of the vocabularies render as. -/
theorem isEntry_iff {s : String} : IsEntry s ↔ ∃ k : Kind, k.InVocabulary ∧ k.render = s := by
  constructor
  · rintro (⟨k, hk⟩ | ⟨m, hm⟩ | ⟨t, ht⟩)
    · exact ⟨.keyword k, .inl rfl, hk⟩
    · exact ⟨.mode m, .inr (.inl rfl), hm⟩
    · exact ⟨.symbol t, .inr (.inr rfl), ht⟩
  · rintro ⟨k, hk, hrender⟩
    cases k with
    | keyword w => exact .inl ⟨w, hrender⟩
    | mode m => exact .inr (.inl ⟨m, hrender⟩)
    | symbol t => exact .inr (.inr ⟨t, hrender⟩)
    | _ => exact absurd hk (by simp [Kind.InVocabulary, Kind.keyword?, Kind.mode?, Kind.isSymbol_eq])

/-- The entries are what look-up finds. -/
theorem ofSpelling?_eq_none_iff_not_isEntry {s : String} :
    Kind.ofSpelling? s = none ↔ ¬ IsEntry s := by
  simp only [isEntry_iff, ← Kind.ofSpelling?_eq_some_iff, Option.eq_none_iff_forall_ne_some,
    not_exists, ne_eq]

/-- The names of the kinds of bytes stand for the bytes. -/
theorem namesBytes_map (bytes : List UInt8) :
    NamesBytes (bytes.map fun b => (Kind.ofByte b).tag.name) bytes := by
  refine ⟨List.length_map _, fun i b hb => ?_, fun b _ => ?_⟩
  · rw [List.getElem?_map, hb, Option.map_some]
  · rcases Kind.ofByte_cases b with ⟨t, ht⟩ | hm
    · exact .inl ⟨t, Kind.ofByte_eq_symbol_iff.mp ht, ht⟩
    · exact .inr hm

/-- Only the names of the kinds of bytes stand for the bytes. -/
theorem NamesBytes.eq_map {names : List String} {bytes : List UInt8} (h : NamesBytes names bytes) :
    names = bytes.map fun b => (Kind.ofByte b).tag.name := by
  refine List.ext_getElem? fun i => ?_
  rw [List.getElem?_map]
  rcases hb : bytes[i]? with _ | b
  · rw [List.getElem?_eq_none_iff, ← h.length_eq] at hb
    rw [Option.map_none, List.getElem?_eq_none_iff.mpr hb]
  · exact h.getElem?_eq i b hb

/-- The description of a text that look-up finds. -/
theorem describe_of_ofSpelling?_eq_some {s : String} {k : Kind} (h : Kind.ofSpelling? s = some k) :
    describe s = quote s ++ " => " ++ k.debug := by
  simp only [describe_eq, classify, h, Classification.report]

/-- The description of an identifier that is no entry. -/
theorem describe_of_identifierShape {s : String} (hentry : ¬ IsEntry s) (h : IdentifierShape s) :
    describe s = quote s ++ " => " ++ (Kind.identifier s).debug := by
  simp only [describe_eq, classify, ofSpelling?_eq_none_iff_not_isEntry.mpr hentry,
    isIdentifier_iff.mpr h, if_true, Classification.report]

/-- The description of a text that is neither an entry nor an identifier. -/
theorem describe_of_not_identifierShape {s : String} (hentry : ¬ IsEntry s)
    (h : ¬ IdentifierShape s) :
    describe s = quote s ++ " => bytes [" ++
      String.intercalate ", " ((utf8 s).map fun b => (Kind.ofByte b).tag.name) ++ "]" := by
  have hid : ¬ isIdentifier s = true := mt isIdentifier_iff.mp h
  have harrow : " => bytes [" = " => " ++ "bytes [" := by decide
  simp only [describe_eq, classify, ofSpelling?_eq_none_iff_not_isEntry.mpr hentry, if_neg hid,
    Classification.report, List.map_map, harrow, String.append_assoc, Function.comp_def]

/-! ### Every spelling is of one sort -/

namespace SpellingSort

/-- A sort allows **no line but the description**. -/
theorem Describes.line_eq {s line : String} {sort : SpellingSort} (h : sort.Describes s line) :
    line = describe s := by
  cases sort with
  | entry =>
      obtain ⟨-, k, hk, -, rfl⟩ := h
      exact (describe_of_ofSpelling?_eq_some (Kind.ofSpelling?_eq_some_iff.mpr hk)).symm
  | identifier =>
      obtain ⟨hentry, hshape, rfl⟩ := h
      exact (describe_of_identifierShape hentry hshape).symm
  | bytes =>
      obtain ⟨hentry, hshape, names, hnames, rfl⟩ := h
      rw [describe_of_not_identifierShape hentry hshape, ← hnames.eq_map]

/-- The description reports every spelling as being of some sort. -/
theorem exists_describes (s : String) : ∃ sort : SpellingSort, sort.Describes s (describe s) := by
  by_cases hentry : IsEntry s
  · obtain ⟨k, hk⟩ := isEntry_iff.mp hentry
    have hfound := Kind.ofSpelling?_eq_some_iff.mpr hk
    refine ⟨entry, hentry, k, hk, fun l hl hrender => ?_, describe_of_ofSpelling?_eq_some hfound⟩
    rw [Kind.ofSpelling?_eq_some_iff.mpr ⟨hl, hrender⟩] at hfound
    exact Option.some.inj hfound
  · by_cases hshape : IdentifierShape s
    · exact ⟨identifier, hentry, hshape, describe_of_identifierShape hentry hshape⟩
    · exact ⟨bytes, hentry, hshape, _, namesBytes_map (utf8 s),
        describe_of_not_identifierShape hentry hshape⟩

/-- No spelling is of two sorts. -/
theorem Describes.sort_eq {s line line' : String} {sort sort' : SpellingSort}
    (h : sort.Describes s line) (h' : sort'.Describes s line') : sort = sort' := by
  cases sort with
  | entry =>
      cases sort' with
      | entry => rfl
      | identifier => exact absurd h.1 h'.1
      | bytes => exact absurd h.1 h'.1
  | identifier =>
      cases sort' with
      | entry => exact absurd h'.1 h.1
      | identifier => rfl
      | bytes => exact absurd h.2.1 h'.2.1
  | bytes =>
      cases sort' with
      | entry => exact absurd h'.1 h.1
      | identifier => exact absurd h'.2.1 h.2.1
      | bytes => rfl

end SpellingSort

/-- **Every spelling is described as being of exactly one sort**, and the description is the only
line that any sort allows. The spelling of a reserved word, a mode or a symbol is reported with the
one kind that renders as it. Any other text is reported as an identifier if it has the shape of one,
and otherwise by the names of its bytes, each of which is a symbol by itself or a marker. -/
theorem describe_sorts_spelling (s : String) :
    (∃! sort : SpellingSort, sort.Describes s (describe s)) ∧
      ∀ (sort : SpellingSort) (line : String), sort.Describes s line → line = describe s := by
  refine ⟨?_, fun sort line h => h.line_eq⟩
  obtain ⟨sort, hsort⟩ := SpellingSort.exists_describes s
  exact ⟨sort, hsort, fun sort' h => h.sort_eq hsort⟩

/-- One character may be several bytes, and the empty text has none. -/
example : describe "é" = "\"é\" => bytes [Illegal, Illegal]" ∧
    describe "" = "\"\" => bytes []" := by
  decide +kernel

end Lexicon
