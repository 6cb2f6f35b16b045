import Mathlib.Algebra.Ring.Nat
import Mathlib.Data.List.Chain
import Lexicon.Scan
import Lexicon.Proofs.LongestSymbol

/-!
# The Scan, and How It Tiles the Input

The scan is a loop whose step looks ahead for the longest symbol. `Scans` describes the same loop
as a relation without lookahead: an input is used up, or it begins with a symbol that does not grow
into what follows, or it begins with the byte of a marker. Every input has exactly one such
derivation, so properties of all scans follow by induction on it, one case for each way a lexeme
arises.

The lexemes of a scan lie side by side over the whole input (`Tiles`), and each of them agrees with
the bytes it covers (`Lexeme.Reads`). Together they say at every index whether the byte there
belongs to a symbol, and that is the case exactly when the byte is a symbol by itself.

## Main results

* `scans_iff`: the relation and the scan agree.
* `Scans.tiles`, `Scans.reads`: what a scan preserves, by induction on the derivation.
* `Tiles.exists_covers`, `Tiles.bounds_of_mem`: every index of a tiled stretch is covered, and no
  lexeme leaves it.
* `scan_tiles_input`: **the scan tiles its input** with lexemes that read back, and it covers by
  symbols exactly the bytes that are symbols.
-/

namespace Lexicon

/-! ### The scan as a relation -/

/-- The **scan as a relation**: `Scans offset input lexemes` holds when `lexemes` are the lexemes
of `input`, whose first byte stands at `offset`. A symbol is taken when it does not grow into the
rest, a single byte when it is a marker. -/
inductive Scans : Nat → List UInt8 → List Lexeme → Prop
  | nil {offset : Nat} : Scans offset [] []
  | symbol {offset : Nat} {s : Symbol} {rest : List UInt8} {lexemes : List Lexeme} :
      ¬ Symbol.Grows s.bytes rest →
      Scans (offset + s.bytes.length) rest lexemes →
      Scans offset (s.bytes ++ rest) (⟨offset, .symbol, .symbol s, s.bytes.length⟩ :: lexemes)
  | byte {offset : Nat} {b : UInt8} {m : Marker} {rest : List UInt8} {lexemes : List Lexeme} :
      Kind.ofByte b = .marker m →
      Scans (offset + 1) rest lexemes →
      Scans offset (b :: rest) (⟨offset, .byte, .marker m, 1⟩ :: lexemes)

/-- The lexeme at the front is a symbol when the search finds one. -/
theorem firstLexeme_of_some {offset : Nat} {b : UInt8} {rest : List UInt8} {s : Symbol} {n : Nat}
    (h : Symbol.longestPrefix? (b :: rest) = some (s, n)) :
    firstLexeme offset b rest = ⟨offset, .symbol, .symbol s, n⟩ := by
  unfold firstLexeme
  rw [h]

/-- The lexeme at the front is a single byte when the search finds no symbol. -/
theorem firstLexeme_of_none {offset : Nat} {b : UInt8} {rest : List UInt8}
    (h : Symbol.longestPrefix? (b :: rest) = none) :
    firstLexeme offset b rest = ⟨offset, .byte, .ofByte b, 1⟩ := by
  unfold firstLexeme
  rw [h]

/-- One step of the scan at a symbol that does not grow: it is taken whole. -/
theorem scanFrom_symbol {offset : Nat} {s : Symbol} {rest : List UInt8}
    (h : ¬ Symbol.Grows s.bytes rest) :
    scanFrom offset (s.bytes ++ rest) =
      ⟨offset, .symbol, .symbol s, s.bytes.length⟩ ::
        scanFrom (offset + s.bytes.length) rest := by
  have hfound : Symbol.longestPrefix? (s.bytes ++ rest) = some (s, s.bytes.length) :=
    Symbol.longestPrefix?_complete (Symbol.isLongest_append_iff.mpr h)
  rcases hbytes : s.bytes with _ | ⟨b, bs⟩
  · exact absurd hbytes s.bytes_ne_nil
  · rw [hbytes, List.cons_append] at hfound
    rw [List.cons_append, scanFrom_cons, firstLexeme_of_some hfound]
    dsimp only
    rw [List.length_cons, Nat.add_sub_cancel, List.drop_left]

/-- One step of the scan at a marker: the byte is taken alone. -/
theorem scanFrom_byte {offset : Nat} {b : UInt8} {m : Marker} {rest : List UInt8}
    (h : Kind.ofByte b = .marker m) :
    scanFrom offset (b :: rest) =
      ⟨offset, .byte, .marker m, 1⟩ :: scanFrom (offset + 1) rest := by
  have hnone : Symbol.longestPrefix? (b :: rest) = none :=
    Symbol.longestPrefix?_cons_eq_none_iff.mpr ⟨m, h⟩
  rw [scanFrom_cons, firstLexeme_of_none hnone, h]
  rfl

/-- A derivation computes the scan. -/
theorem Scans.scanFrom_eq {offset : Nat} {input : List UInt8} {lexemes : List Lexeme}
    (h : Scans offset input lexemes) : scanFrom offset input = lexemes := by
  induction h with
  | nil => exact scanFrom_nil _
  | symbol hgrows _ ih => rw [scanFrom_symbol hgrows, ih]
  | byte hm _ ih => rw [scanFrom_byte hm, ih]

/-- The scan of every input has a derivation. -/
theorem scans_scanFrom (offset : Nat) (input : List UInt8) :
    Scans offset input (scanFrom offset input) := by
  induction hn : input.length using Nat.strong_induction_on generalizing offset input with
  | _ n ih =>
      rcases input with _ | ⟨b, rest⟩
      · rw [scanFrom_nil]
        exact Scans.nil
      · rcases hfound : Symbol.longestPrefix? (b :: rest) with _ | ⟨s, k⟩
        · obtain ⟨m, hm⟩ := Symbol.longestPrefix?_cons_eq_none_iff.mp hfound
          rw [scanFrom_byte hm]
          refine Scans.byte hm (ih rest.length ?_ _ rest rfl)
          rw [← hn, List.length_cons]
          omega
        · obtain ⟨hlongest, -⟩ := Symbol.longestPrefix?_sound hfound
          obtain ⟨tail, htail⟩ := hlongest.isPrefix
          rw [← htail] at hlongest hn ⊢
          have hgrows := Symbol.isLongest_append_iff.mp hlongest
          rw [scanFrom_symbol hgrows]
          refine Scans.symbol hgrows (ih tail.length ?_ _ tail rfl)
          have hpos := s.length_bytes_pos
          rw [← hn, List.length_append]
          omega

/-- The relation and the scan agree. -/
theorem scans_iff {offset : Nat} {input : List UInt8} {lexemes : List Lexeme} :
    Scans offset input lexemes ↔ scanFrom offset input = lexemes :=
  ⟨Scans.scanFrom_eq, fun h => h ▸ scans_scanFrom offset input⟩

/-! ### Lexemes side by side -/

/-- A lexeme **covers** the indices from its offset up to its end. -/
def Lexeme.Covers (l : Lexeme) (i : Nat) : Prop :=
  l.offset ≤ i ∧ i < l.offset + l.length

/-- Lexemes **tile** the stretch of `size` bytes that begins at `start`: the first of them begins
there, none is empty, each begins where the one before it ends, and their lengths add up. -/
structure Tiles (start size : Nat) (lexemes : List Lexeme) : Prop where
  /-- The first lexeme begins at the start. -/
  offset_head : ∀ l ∈ lexemes.head?, l.offset = start
  /-- No lexeme is empty. -/
  length_pos : ∀ l ∈ lexemes, 1 ≤ l.length
  /-- Each lexeme begins where the one before it ends. -/
  adjacent : lexemes.IsChain fun l m => m.offset = l.offset + l.length
  /-- The lengths add up to the whole. -/
  sum_length : (lexemes.map Lexeme.length).sum = size

namespace Tiles

/-- No lexemes tile the empty stretch. -/
theorem nil (start : Nat) : Tiles start 0 [] :=
  ⟨by simp, by simp, List.isChain_nil, rfl⟩

/-- A lexeme at the start and a tiling of what follows it tile the whole. -/
theorem cons {start size : Nat} {l : Lexeme} {lexemes : List Lexeme} (hoffset : l.offset = start)
    (hpos : 1 ≤ l.length) (h : Tiles (start + l.length) size lexemes) :
    Tiles start (l.length + size) (l :: lexemes) := by
  refine ⟨?_, ?_, ?_, ?_⟩
  · intro m hm
    obtain rfl : l = m := by simpa using hm
    exact hoffset
  · intro m hm
    rcases List.mem_cons.mp hm with rfl | hm
    · exact hpos
    · exact h.length_pos m hm
  · refine h.adjacent.cons fun m hm => ?_
    rw [h.offset_head m hm, hoffset]
  · rw [List.map_cons, List.sum_cons, h.sum_length]

/-- Without its first lexeme, a tiling tiles what is left. -/
theorem tail {start size : Nat} {l : Lexeme} {lexemes : List Lexeme}
    (h : Tiles start size (l :: lexemes)) :
    Tiles (start + l.length) (size - l.length) lexemes := by
  have hoffset := h.offset_head l (by simp)
  obtain ⟨hnext, hadjacent⟩ := List.isChain_cons.mp h.adjacent
  have hsum := h.sum_length
  rw [List.map_cons, List.sum_cons] at hsum
  refine ⟨fun m hm => ?_, fun m hm => h.length_pos m (List.mem_cons_of_mem l hm), hadjacent, ?_⟩
  · rw [hnext m hm, hoffset]
  · omega

/-- The lexemes of a tiling stay within the stretch. -/
theorem bounds_of_mem {start size : Nat} {lexemes : List Lexeme} (h : Tiles start size lexemes)
    {l : Lexeme} (hl : l ∈ lexemes) : start ≤ l.offset ∧ l.offset + l.length ≤ start + size := by
  induction lexemes generalizing start size with
  | nil => exact absurd hl List.not_mem_nil
  | cons m lexemes ih =>
      have hoffset := h.offset_head m (by simp)
      have hsum := h.sum_length
      rw [List.map_cons, List.sum_cons] at hsum
      rcases List.mem_cons.mp hl with rfl | hl
      · omega
      · obtain ⟨hstart, hend⟩ := ih h.tail hl
        omega

/-- Every index of a tiled stretch is covered. -/
theorem exists_covers {start size : Nat} {lexemes : List Lexeme} (h : Tiles start size lexemes)
    {i : Nat} (hstart : start ≤ i) (hend : i < start + size) : ∃ l ∈ lexemes, l.Covers i := by
  induction lexemes generalizing start size with
  | nil =>
      have hsize : 0 = size := h.sum_length
      omega
  | cons l lexemes ih =>
      have hoffset := h.offset_head l (by simp)
      by_cases hi : i < start + l.length
      · exact ⟨l, by simp, by omega, by omega⟩
      · obtain ⟨m, hm, hcovers⟩ := ih h.tail (by omega) (by omega)
        exact ⟨m, List.mem_cons_of_mem l hm, hcovers⟩

end Tiles

/-- The lexemes of a scan tile the input. -/
theorem Scans.tiles {offset : Nat} {input : List UInt8} {lexemes : List Lexeme}
    (h : Scans offset input lexemes) : Tiles offset input.length lexemes := by
  induction h with
  | nil => exact Tiles.nil _
  | @symbol offset s rest lexemes _ _ ih =>
      rw [List.length_append]
      exact Tiles.cons (l := ⟨offset, .symbol, .symbol s, s.bytes.length⟩) rfl
        s.length_bytes_pos ih
  | @byte offset b m rest lexemes _ _ ih =>
      rw [List.length_cons, Nat.add_comm]
      exact Tiles.cons (l := ⟨offset, .byte, .marker m, 1⟩) rfl (Nat.le_refl 1) ih

/-! ### Lexemes against the bytes they cover -/

/-- A lexeme **reads** as the input does at its place: a symbol has its spelling there, and a
single byte is the marker that it was classified as. -/
inductive Lexeme.Reads (input : List UInt8) : Lexeme → Prop
  | symbol {offset : Nat} {s : Symbol} :
      s.bytes <+: input.drop offset →
      Lexeme.Reads input ⟨offset, .symbol, .symbol s, s.bytes.length⟩
  | byte {offset : Nat} {b : UInt8} {m : Marker} :
      input[offset]? = some b → Kind.ofByte b = .marker m →
      Lexeme.Reads input ⟨offset, .byte, .marker m, 1⟩

/-- The lexemes of a scan read as the input does, whatever bytes came before. -/
theorem Scans.reads {offset : Nat} {input : List UInt8} {lexemes : List Lexeme}
    (h : Scans offset input lexemes) (before : List UInt8) (hbefore : before.length = offset) :
    ∀ l ∈ lexemes, l.Reads (before ++ input) := by
  induction h generalizing before with
  | nil => simp
  | @symbol offset s rest lexemes _ _ ih =>
      intro l hl
      rcases List.mem_cons.mp hl with rfl | hl
      · refine Lexeme.Reads.symbol ?_
        rw [← hbefore, List.drop_left]
        exact List.prefix_append _ _
      · rw [← List.append_assoc]
        exact ih (before ++ s.bytes) (by rw [List.length_append, hbefore]) l hl
  | @byte offset b m rest lexemes hm _ ih =>
      intro l hl
      rcases List.mem_cons.mp hl with rfl | hl
      · refine Lexeme.Reads.byte ?_ hm
        rw [← hbefore, List.getElem?_append_right (Nat.le_refl _), Nat.sub_self]
        rfl
      · have hsplit : before ++ b :: rest = (before ++ [b]) ++ rest := by simp
        rw [hsplit]
        exact ih (before ++ [b]) (by rw [List.length_append, hbefore, List.length_singleton]) l hl

/-- The bytes that a symbol covers are bytes of its spelling. -/
theorem mem_bytes_of_isPrefix_drop {input bytes : List UInt8} {offset i : Nat} {b : UInt8}
    (h : bytes <+: input.drop offset) (hstart : offset ≤ i) (hend : i < offset + bytes.length)
    (hb : input[i]? = some b) : b ∈ bytes := by
  obtain ⟨tail, htail⟩ := h
  have hget : (bytes ++ tail)[i - offset]? = some b := by
    rw [htail, List.getElem?_drop, ← hb]
    congr 1
    omega
  rw [List.getElem?_append_left (by omega)] at hget
  exact List.mem_of_getElem? hget

/-! ### The whole scan -/

/-- The scan of an input has a derivation. -/
theorem scans_scan (input : List UInt8) : Scans 0 input (scan input) :=
  scans_scanFrom 0 input

/-- The lexemes of the scan read as the input does. -/
theorem reads_of_mem_scan {input : List UInt8} {l : Lexeme} (hl : l ∈ scan input) :
    l.Reads input :=
  (scans_scan input).reads [] rfl l hl

/-- A lexeme that reads as the input does covers a byte by a symbol exactly when that byte is a
symbol by itself. -/
theorem Lexeme.Reads.origin_eq_symbol_iff {input : List UInt8} {l : Lexeme} (h : l.Reads input)
    {i : Nat} {b : UInt8} (hi : l.Covers i) (hb : input[i]? = some b) :
    l.origin = .symbol ↔ (Kind.ofByte b).isSymbol = true := by
  obtain ⟨hstart, hend⟩ := hi
  cases h with
  | symbol hbytes =>
      exact iff_of_true rfl
        (Kind.isSymbol_ofByte_of_mem_bytes (mem_bytes_of_isPrefix_drop hbytes hstart hend hb))
  | @byte offset c m hc hm =>
      obtain rfl : i = offset := by
        dsimp only at hstart hend
        omega
      obtain rfl : b = c := Option.some.inj (hb.symm.trans hc)
      rw [hm]
      exact iff_of_false (by simp) (by simp [Kind.isSymbol_eq])

/-- **The scan tiles its input.** The first lexeme begins at offset `0`, none is empty, each begins
where the one before it ends, and their lengths add up to the length of the input. What was found
as a symbol renders as the slice of the input that it covers; what was found as a single byte ends
the source or a line or is illegal; and an index lies in a symbol exactly when the byte there is a
symbol by itself. -/
theorem scan_tiles_input (input : List UInt8) :
    Tiles 0 input.length (scan input) ∧
      (∀ l ∈ scan input, l.origin = .symbol →
        l.kind.isSymbol = true ∧ l.kind.renderBytes = (input.drop l.offset).take l.length) ∧
      (∀ l ∈ scan input, l.origin = .byte →
        l.kind = .marker .eof ∨ l.kind = .marker .newline ∨ l.kind = .marker .illegal) ∧
      ∀ (i : Nat) (hi : i < input.length),
        (∃ l ∈ scan input, l.origin = .symbol ∧ l.Covers i) ↔
          (Kind.ofByte input[i]).isSymbol = true := by
  have htiles := (scans_scan input).tiles
  refine ⟨htiles, fun l hl horigin => ?_, fun l hl horigin => ?_, fun i hi => ⟨?_, fun hsym => ?_⟩⟩
  · cases reads_of_mem_scan hl with
    | symbol hbytes => exact ⟨rfl, List.prefix_iff_eq_take.mp hbytes⟩
    | byte _ _ => exact absurd horigin (by simp)
  · cases reads_of_mem_scan hl with
    | symbol _ => exact absurd horigin (by simp)
    | @byte _ _ m _ _ => cases m <;> simp
  · rintro ⟨l, hl, horigin, hcovers⟩
    have hb := List.getElem?_eq_getElem hi
    exact ((reads_of_mem_scan hl).origin_eq_symbol_iff hcovers hb).mp horigin
  · obtain ⟨l, hl, hcovers⟩ := htiles.exists_covers (Nat.zero_le i) (by omega)
    have hb := List.getElem?_eq_getElem hi
    exact ⟨l, hl, ((reads_of_mem_scan hl).origin_eq_symbol_iff hcovers hb).mpr hsym, hcovers⟩

end Lexicon
