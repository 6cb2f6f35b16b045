import Lexicon.Proofs.DisjointVocabularies

/-!
# Three Ways to a Row

A row of the symbol table is reached in three ways. A whole text is looked up among the words first
and among the symbols last. The bytes at the front of an input are cut shorter and shorter until
they spell a symbol. And a kind leads to its row through the text that it renders as, if it has a
fixed one. The first way reads text, the second reads bytes that need not be text at all, and the
third begins with neither.

All of them end at the same row. Looking up a whole text is the search that uses up all its bytes,
because a symbol that spans everything has no longer rival. And a kind leads to a row exactly when
the row is about that kind: a row is spelled as its symbol is rendered, and no other text that is
fixed has a symbol in it.

## Main results

* `Symbol.ofBytes?_eq_some_iff_longestPrefix?`: whole look-up is the search that uses up the input.
* `Kind.ofSpelling?_eq_some_symbol_iff`: the words never keep a text from being a symbol.
* `Kind.symbolRow?_eq_some_iff`: a kind leads to a row exactly when the row is about it.
* `symbol_lookups_agree`: **the three ways end at the same row**.
-/

namespace Lexicon

/-! ### Whole bytes and bytes at the front -/

namespace Symbol

/-- The search uses up the input exactly when the input is the spelling of a symbol. -/
theorem longestPrefix?_eq_some_length_iff {input : List UInt8} {s : Symbol} :
    longestPrefix? input = some (s, input.length) ↔ s.bytes = input := by
  rw [longestPrefix?_eq_some_iff]
  constructor
  · rintro ⟨hlongest, hlength⟩
    exact hlongest.isPrefix.eq_of_length hlength.symm
  · rintro rfl
    exact ⟨⟨List.prefix_refl _, fun t ht => ht.length_le⟩, rfl⟩

/-- **Whole look-up is the search that uses up the input**, for any bytes. -/
theorem ofBytes?_eq_some_iff_longestPrefix? {input : List UInt8} {s : Symbol} :
    ofBytes? input = some s ↔ longestPrefix? input = some (s, input.length) := by
  rw [ofBytes?_eq_some_iff, longestPrefix?_eq_some_length_iff]

/-- What the search finds is spelled by the bytes that it spans. -/
theorem bytes_eq_take_of_longestPrefix? {input : List UInt8} {s : Symbol} {n : Nat}
    (h : longestPrefix? input = some (s, n)) : n ≤ input.length ∧ s.bytes = input.take n := by
  obtain ⟨hlongest, rfl⟩ := longestPrefix?_sound h
  exact ⟨hlongest.isPrefix.length_le, List.prefix_iff_eq_take.mp hlongest.isPrefix⟩

/-- A symbol is found in front of bytes that are no text. -/
example : longestPrefix? [0x2e, 0x2e, 0xff, 0x3d] = some (rangeExc, 2) := by
  decide +kernel

/-- Bytes that are free of symbols are the spelling of no row. -/
theorem rowOf?_eq_none_of_symbolFree {bytes : List UInt8} (h : SymbolFree bytes) :
    rowOf? bytes = none := by
  refine Option.eq_none_iff_forall_ne_some.mpr fun row hfound => ?_
  obtain ⟨hrow, rfl⟩ := rowOf?_eq_some_iff.mp hfound
  rw [bytes_eq_of_mem_table hrow] at h
  obtain ⟨b, hmem⟩ := List.exists_mem_of_ne_nil _ row.symbol.bytes_ne_nil
  have hfree := h b hmem
  rw [Kind.isSymbol_ofByte_of_mem_bytes hmem] at hfree
  exact Bool.false_ne_true hfree.symm

end Symbol

/-! ### From texts and from kinds -/

namespace Kind

/-- A text resolves to a symbol exactly when it is found **among the symbols alone**. -/
theorem ofSpelling?_eq_some_symbol_iff {s : String} {t : Symbol} :
    ofSpelling? s = some (symbol t) ↔ Symbol.ofBytes? (utf8 s) = some t := by
  rw [ofSpelling?_eq_some_iff, Symbol.ofBytes?_utf8_eq_some_iff]
  exact and_iff_right (.inr (.inr rfl))

/-- A kind leads to a row exactly when **the row is about that kind**. -/
theorem symbolRow?_eq_some_iff {k : Kind} {row : Symbol.Row} :
    k.symbolRow? = some row ↔ row ∈ Symbol.table ∧ row.kind = k := by
  cases k with
  | symbol s =>
      have hrow : (symbol s).symbolRow? = Symbol.rowOf? s.bytes := rfl
      rw [hrow, Symbol.rowOf?_eq_some_iff]
      refine and_congr_right fun hmem => ?_
      rw [Symbol.bytes_eq_of_mem_table hmem, Symbol.bytes_inj, Symbol.Row.kind, symbol.injEq]
  | keyword w =>
      have hfree := symbolFree_of_isIdentifier w.isIdentifier_spelling
      simp [symbolRow?, spelling?, Symbol.Row.kind, Symbol.rowOf?_eq_none_of_symbolFree hfree]
  | mode m =>
      have hfree := symbolFree_of_isIdentifier m.isIdentifier_spelling
      simp [symbolRow?, spelling?, Symbol.Row.kind, Symbol.rowOf?_eq_none_of_symbolFree hfree]
  | marker m =>
      have hfree := m.symbolFree_spelling
      simp [symbolRow?, spelling?, Symbol.Row.kind, Symbol.rowOf?_eq_none_of_symbolFree hfree]
  | _ => simp [symbolRow?, spelling?, Symbol.Row.kind]

end Kind

/-! ### The same row -/

/-- **The three ways end at the same row.** A text resolves to a kind that is a symbol exactly when
the search finds that symbol at the front of the bytes of the text and uses them up. And whatever
bytes are searched, the symbol that is found leads to a row of the table that is about it, and that
is the only row which is spelled by the bytes that the search spans. -/
theorem symbol_lookups_agree :
    (∀ (s : String) (k : Kind), Kind.ofSpelling? s = some k ∧ k.isSymbol = true ↔
      ∃ t : Symbol, k = .symbol t ∧
        Symbol.longestPrefix? (utf8 s) = some (t, s.utf8ByteSize)) ∧
    ∀ (input : List UInt8) (t : Symbol) (n : Nat), Symbol.longestPrefix? input = some (t, n) →
      n ≤ input.length ∧ ∃ row ∈ Symbol.table,
        (Kind.symbol t).symbolRow? = some row ∧ row.kind = .symbol t ∧
        ∀ other ∈ Symbol.table, utf8 other.spelling = input.take n ↔ other = row := by
  refine ⟨fun s k => ⟨?_, ?_⟩, fun input t n h => ?_⟩
  · rintro ⟨hfound, hsymbol⟩
    cases k with
    | symbol t =>
        refine ⟨t, rfl, ?_⟩
        rw [← length_utf8, ← Symbol.ofBytes?_eq_some_iff_longestPrefix?]
        exact Kind.ofSpelling?_eq_some_symbol_iff.mp hfound
    | _ => exact absurd hsymbol (by simp [Kind.isSymbol_eq])
  · rintro ⟨t, rfl, hfound⟩
    rw [← length_utf8, ← Symbol.ofBytes?_eq_some_iff_longestPrefix?] at hfound
    exact ⟨Kind.ofSpelling?_eq_some_symbol_iff.mpr hfound, rfl⟩
  · obtain ⟨hle, hbytes⟩ := Symbol.bytes_eq_take_of_longestPrefix? h
    obtain ⟨row, hrow, rfl⟩ := t.exists_mem_table
    refine ⟨hle, row, hrow, Kind.symbolRow?_eq_some_iff.mpr ⟨hrow, rfl⟩, rfl, ?_⟩
    intro other hother
    rw [← hbytes, ← Symbol.bytes_eq_of_mem_table hrow]
    refine ⟨fun h => ?_, fun h => h ▸ rfl⟩
    exact List.inj_on_of_nodup_map Symbol.nodup_bytes hother hrow h

end Lexicon
