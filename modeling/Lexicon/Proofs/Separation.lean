import Lexicon.Proofs.Scan
import Lexicon.Proofs.Vocabulary

/-!
# Symbols Between Separators

Renderings that are joined by spaces scan back to their symbols. A space is no symbol by itself, so
no symbol grows into it, and what is rendered between two spaces is either one symbol or has no
symbol in it at all. For reserved words and modes the latter is a matter of their shape, for markers
of their texts; a payload has to promise it. A byte from `0x80` on is never a symbol, so whatever is
not ASCII keeps that promise by itself.

## Main results

* `Kind.isSymbol_ofByte_of_le`, `Kind.isSymbol_ofByte_of_isIdentifierPart`: bytes that are no
  symbols.
* `Kind.ofByte_of_le`: bytes from `0x80` on are illegal.
* `Kind.symbolFree_render`: the rendering of everything but a symbol has no symbol in it.
* `symbolKinds_scanFrom_render_append`: what scanning one rendering finds.
* `symbolKinds_scan_spaced`: **renderings that are joined by spaces scan back to their symbols**.
-/

namespace Lexicon

/-! ### Characters and their bytes -/

/-- An ASCII character is one byte, its own number. -/
theorem utf8EncodeChar_of_lt {c : Char} (h : c.toNat < 0x80) :
    String.utf8EncodeChar c = [UInt8.ofNat c.toNat] := by
  have hval : c.val.toNat ≤ 0x7f := Nat.le_of_lt_succ h
  rw [String.utf8EncodeChar]
  exact if_pos hval

/-- Every byte of a character that is not ASCII is at least `0x80`. -/
theorem le_toNat_of_mem_utf8EncodeChar {c : Char} (h : 0x80 ≤ c.toNat) {b : UInt8}
    (hb : b ∈ String.utf8EncodeChar c) : 0x80 ≤ b.toNat := by
  have hlow : ¬ c.val.toNat ≤ 0x7f := Nat.not_le_of_lt h
  simp only [String.utf8EncodeChar, if_neg hlow] at hb
  split_ifs at hb <;> simp only [List.mem_cons, List.not_mem_nil, or_false] at hb
  · rcases hb with rfl | rfl <;> simp only [UInt8.toNat_ofNat'] <;> omega
  · rcases hb with rfl | rfl | rfl <;> simp only [UInt8.toNat_ofNat'] <;> omega
  · rcases hb with rfl | rfl | rfl | rfl <;> simp only [UInt8.toNat_ofNat'] <;> omega

/-- A character with an ASCII byte is ASCII. -/
theorem toNat_lt_of_mem_utf8EncodeChar {c : Char} {b : UInt8} (hb : b ∈ String.utf8EncodeChar c)
    (h : b.toNat < 0x80) : c.toNat < 0x80 := by
  by_contra hle
  have hhigh := le_toNat_of_mem_utf8EncodeChar (Nat.not_lt.mp hle) hb
  omega

/-- The character of a byte has the number of the byte. -/
theorem Kind.toNat_byteChar (b : UInt8) : (byteChar b).toNat = b.toNat := by
  have hvalid : b.toNat.isValidChar := by
    have hb := b.toNat_lt
    exact Or.inl (by omega)
  rw [byteChar, Char.ofNat, dif_pos hvalid]
  rfl

/-! ### Bytes that are no symbols -/

/-- The spellings of symbols are ASCII. -/
theorem Symbol.toNat_lt_of_mem_bytes {s : Symbol} {b : UInt8} (h : b ∈ s.bytes) :
    b.toNat < 0x80 := by
  have hall : s.bytes.all (fun b => b.toNat < 0x80) = true := by
    cases s <;> rfl
  exact of_decide_eq_true (List.all_eq_true.mp hall b h)

/-- The texts of the markers are ASCII. -/
theorem Marker.toNat_lt_of_mem_spelling {m : Marker} {b : UInt8} (h : b ∈ utf8 m.spelling) :
    b.toNat < 0x80 := by
  have hall : (utf8 m.spelling).all (fun b => b.toNat < 0x80) = true := by
    cases m <;> rfl
  exact of_decide_eq_true (List.all_eq_true.mp hall b h)

/-- No byte of a symbol can be part of an identifier. -/
theorem Symbol.isIdentifierPart_of_mem_bytes {s : Symbol} {b : UInt8} (h : b ∈ s.bytes) :
    isIdentifierPart b = false := by
  have hall : s.bytes.all (fun b => !isIdentifierPart b) = true := by
    cases s <;> rfl
  exact Bool.not_eq_true' _ ▸ List.all_eq_true.mp hall b h

namespace Kind

/-- A byte is no symbol if it is no spelling of a symbol. -/
theorem isSymbol_ofByte_eq_false {b : UInt8} (h : ∀ s : Symbol, b ∉ s.bytes) :
    (ofByte b).isSymbol = false := by
  rcases ofByte_cases b with ⟨s, hs⟩ | ⟨m, hm⟩
  · exact absurd (by rw [ofByte_eq_symbol_iff.mp hs]; exact List.mem_singleton_self b) (h s)
  · rw [hm]
    rfl

/-- A byte from `0x80` on is no symbol. -/
theorem isSymbol_ofByte_of_le {b : UInt8} (h : 0x80 ≤ b.toNat) : (ofByte b).isSymbol = false := by
  refine isSymbol_ofByte_eq_false fun s hs => ?_
  have hlt := Symbol.toNat_lt_of_mem_bytes hs
  omega

/-- A byte from `0x80` on is illegal: the texts of the other markers are ASCII. -/
theorem ofByte_of_le {b : UInt8} (h : 0x80 ≤ b.toNat) : ofByte b = marker .illegal := by
  obtain ⟨m, hm⟩ := exists_ofByte_eq_marker (isSymbol_ofByte_of_le h)
  by_cases hillegal : m = .illegal
  · rw [hm, hillegal]
  · have hspelling := utf8_spelling_of_ofByte_eq hm hillegal
    have hlt : b.toNat < 0x80 := m.toNat_lt_of_mem_spelling (by rw [hspelling]; simp)
    omega

/-- A byte of an identifier is no symbol. -/
theorem isSymbol_ofByte_of_isIdentifierPart {b : UInt8} (h : isIdentifierPart b = true) :
    (ofByte b).isSymbol = false := by
  refine isSymbol_ofByte_eq_false fun s hs => ?_
  rw [Symbol.isIdentifierPart_of_mem_bytes hs] at h
  exact Bool.false_ne_true h

end Kind

/-! ### Bytes without symbols -/

/-- Bytes are **free of symbols** when none of them is a symbol by itself. -/
def SymbolFree (bytes : List UInt8) : Prop :=
  ∀ b ∈ bytes, (Kind.ofByte b).isSymbol = false

instance (bytes : List UInt8) : Decidable (SymbolFree bytes) :=
  List.decidableBAll (fun b => (Kind.ofByte b).isSymbol = false) bytes

/-- A text with the shape of an identifier is free of symbols. -/
theorem symbolFree_of_isIdentifier {s : String} (h : isIdentifier s = true) :
    SymbolFree (utf8 s) := by
  intro b hb
  refine Kind.isSymbol_ofByte_of_isIdentifierPart ?_
  rw [isIdentifier] at h
  rcases hbytes : utf8 s with _ | ⟨c, rest⟩
  · rw [hbytes] at hb
    exact absurd hb List.not_mem_nil
  · rw [hbytes] at hb h
    obtain ⟨hstart, hrest⟩ := Bool.and_eq_true_iff.mp h
    rcases List.mem_cons.mp hb with rfl | hb
    · rw [isIdentifierPart, hstart, Bool.true_or]
    · exact List.all_eq_true.mp hrest b hb

/-- The texts of the markers are free of symbols. -/
theorem Marker.symbolFree_spelling (m : Marker) : SymbolFree (utf8 m.spelling) := by
  cases m <;> decide

namespace Kind

/-- The bytes that a kind carries as its own: the text of an identifier or of a literal, and the
byte of a character literal. -/
def payloadBytes : Kind → List UInt8
  | identifier text => utf8 text
  | string text => utf8 text
  | character b => [b]
  | integer text => utf8 text
  | float text => utf8 text
  | _ => []

/-- The text of a character literal is the character of its byte. -/
theorem utf8_render_character (b : UInt8) :
    utf8 (character b).render = String.utf8EncodeChar (byteChar b) := by
  simp [render, utf8]

/-- An ASCII byte is the encoding of its character. -/
theorem utf8EncodeChar_byteChar_of_lt {b : UInt8} (h : b.toNat < 0x80) :
    String.utf8EncodeChar (byteChar b) = [b] := by
  rw [← toNat_byteChar] at h
  rw [utf8EncodeChar_of_lt h, toNat_byteChar, UInt8.ofNat_toNat]

/-- A character literal is rendered free of symbols if its byte is no symbol. From `0x80` on, the
rendering is not the byte, but not ASCII either. -/
theorem symbolFree_render_character {b : UInt8} (h : (ofByte b).isSymbol = false) :
    SymbolFree (utf8 (character b).render) := by
  rw [utf8_render_character]
  intro c hc
  by_cases hlt : b.toNat < 0x80
  · rw [utf8EncodeChar_byteChar_of_lt hlt, List.mem_singleton] at hc
    rw [hc, h]
  · rw [← toNat_byteChar, Nat.not_lt] at hlt
    exact isSymbol_ofByte_of_le (le_toNat_of_mem_utf8EncodeChar hlt hc)

/-- **The rendering of everything but a symbol has no symbol in it**, provided that the payload has
none. -/
theorem symbolFree_render {k : Kind} (hk : k.isSymbol = false) (h : SymbolFree k.payloadBytes) :
    SymbolFree (utf8 k.render) := by
  cases k with
  | identifier text => exact h
  | string text => exact h
  | character b => exact symbolFree_render_character (h b (List.mem_singleton_self b))
  | integer text => exact h
  | float text => exact h
  | keyword w => exact symbolFree_of_isIdentifier w.isIdentifier_spelling
  | mode m => exact symbolFree_of_isIdentifier m.isIdentifier_spelling
  | symbol s => exact absurd hk (by simp [isSymbol_eq])
  | marker m => exact m.symbolFree_spelling

end Kind

/-! ### Scanning renderings -/

/-- The kinds of the lexemes that were found as symbols, in order. -/
def symbolKinds (lexemes : List Lexeme) : List Kind :=
  (lexemes.filter fun l => l.origin = .symbol).map Lexeme.kind

/-- Nothing is found in bytes that are free of symbols. -/
theorem symbolKinds_scanFrom_append {bytes : List UInt8} (h : SymbolFree bytes) (offset : Nat)
    (rest : List UInt8) :
    symbolKinds (scanFrom offset (bytes ++ rest)) =
      symbolKinds (scanFrom (offset + bytes.length) rest) := by
  induction bytes generalizing offset with
  | nil => rfl
  | cons b bytes ih =>
      obtain ⟨hb, hbytes⟩ := List.forall_mem_cons.mp h
      obtain ⟨m, hm⟩ := Kind.exists_ofByte_eq_marker hb
      rw [List.cons_append, scanFrom_byte hm, List.length_cons, Nat.add_comm bytes.length 1,
        ← Nat.add_assoc, ← ih hbytes]
      rfl

/-- No symbol grows into a byte that is no symbol. -/
theorem Symbol.not_grows_of_head? {spelling rest : List UInt8}
    (h : ∀ b ∈ rest.head?, (Kind.ofByte b).isSymbol = false) : ¬ Grows spelling rest := by
  rw [grows_iff]
  rintro ⟨b, hb, t, ht⟩
  have hsym : (Kind.ofByte b).isSymbol = true :=
    Kind.isSymbol_ofByte_of_mem_bytes (s := t) (by rw [ht]; simp)
  rw [h b hb] at hsym
  exact Bool.false_ne_true hsym

/-- **Scanning one rendering** finds the kind if it is a symbol and nothing otherwise, when no
symbol follows at once. -/
theorem symbolKinds_scanFrom_render_append {k : Kind} (h : SymbolFree k.payloadBytes)
    {rest : List UInt8} (hrest : ∀ b ∈ rest.head?, (Kind.ofByte b).isSymbol = false)
    (offset : Nat) :
    symbolKinds (scanFrom offset (utf8 k.render ++ rest)) =
      [k].filter Kind.isSymbol ++
        symbolKinds (scanFrom (offset + (utf8 k.render).length) rest) := by
  cases hk : k.isSymbol with
  | false =>
      rw [symbolKinds_scanFrom_append (Kind.symbolFree_render hk h)]
      simp [hk]
  | true =>
      cases k with
      | symbol s =>
          have hgrows : ¬ Symbol.Grows s.bytes rest := Symbol.not_grows_of_head? hrest
          exact congrArg symbolKinds (scanFrom_symbol hgrows)
      | _ => exact absurd hk (by simp [Kind.isSymbol_eq])

/-- Scanning renderings that are joined by spaces finds the symbols among them, from any offset. -/
theorem symbolKinds_scanFrom_intercalate {kinds : List Kind}
    (h : ∀ k ∈ kinds, SymbolFree k.payloadBytes) (offset : Nat) :
    symbolKinds (scanFrom offset (utf8 (String.intercalate " " (kinds.map Kind.render)))) =
      kinds.filter Kind.isSymbol := by
  induction kinds generalizing offset with
  | nil =>
      rw [List.map_nil, String.intercalate_nil, utf8_empty, scanFrom_nil]
      rfl
  | cons k kinds ih =>
      obtain ⟨hk, hkinds⟩ := List.forall_mem_cons.mp h
      cases kinds with
      | nil =>
          have hend : ∀ b ∈ ([] : List UInt8).head?, (Kind.ofByte b).isSymbol = false := by simp
          have hstep := symbolKinds_scanFrom_render_append hk hend offset
          rw [List.append_nil, scanFrom_nil] at hstep
          rw [List.map_singleton, String.intercalate_singleton, hstep]
          exact List.append_nil _
      | cons l kinds =>
          have hspace : SymbolFree [0x20] := by decide
          have hutf8 : utf8 " " = [0x20] := by decide
          rw [List.map_cons, List.map_cons, String.intercalate_cons_cons, ← List.map_cons,
            utf8_append, utf8_append, hutf8, List.append_assoc,
            symbolKinds_scanFrom_render_append hk (by simp [Kind.ofByte, Kind.isSymbol_eq]),
            symbolKinds_scanFrom_append hspace, ih hkinds, ← List.filter_append]
          rfl

/-- **Renderings that are joined by spaces scan back to their symbols.** Scanning the renderings of
some kinds with one space between any two finds exactly the symbols among the kinds, in order,
provided that no payload has a symbol in it. -/
theorem symbolKinds_scan_spaced {kinds : List Kind}
    (h : ∀ k ∈ kinds, SymbolFree k.payloadBytes) :
    symbolKinds (scan (utf8 (String.intercalate " " (kinds.map Kind.render)))) =
      kinds.filter Kind.isSymbol :=
  symbolKinds_scanFrom_intercalate h 0

/-- The symbols `..` and `=` are kept apart by a space, among kinds of other sorts. -/
theorem symbolKinds_scan_spaced_mixed :
    (∀ k ∈ [Kind.keyword .letKw, .identifier "é_1", .symbol .rangeExc, .symbol .assign,
        .marker .illegal, .marker .eof, .character 0xff], SymbolFree k.payloadBytes) ∧
      symbolKinds (scan (utf8 (String.intercalate " "
          ([Kind.keyword .letKw, .identifier "é_1", .symbol .rangeExc, .symbol .assign,
            .marker .illegal, .marker .eof, .character 0xff].map Kind.render)))) =
        [.symbol .rangeExc, .symbol .assign] :=
  ⟨by decide, symbolKinds_scan_spaced (by decide)⟩

end Lexicon
