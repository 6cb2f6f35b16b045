import Lexicon.Kind
import Lexicon.Proofs.Lookup

/-!
# The Longest Symbol

`Symbol.longestPrefix?` tries shorter and shorter parts of the input until one of them spells a
symbol. This module says what it finds without speaking of the search: `Symbol.IsLongest s input`
holds when `s` stands at the front of `input` and no symbol there is longer.

Being longest looks like a condition on everything that follows, up to the length of the longest
spelling. It is not, because **the spellings are closed under prefixes**: a symbol that is not the
longest one has a longer rival, the rival has a part that is exactly one byte longer, and that part
is the spelling of a symbol as well. So one further byte decides, and `Symbol.Grows` asks about
that byte alone.

## Main results

* `Symbol.longestPrefix?_eq_some_iff`, `Symbol.longestPrefix?_eq_none_iff`: the search finds
  exactly the longest symbol.
* `Symbol.longestPrefix?_maximal_munch`: the same over the rows of the table.
* `Symbol.exists_bytes_eq_of_isPrefix`: every nonempty prefix of a spelling is a spelling.
* `Symbol.grows_iff`: growing, told by the symbols instead of the rows of the table.
* `Symbol.isLongest_append_iff`: a symbol is longest exactly when the next byte does not let it
  grow.
* `Kind.ofByte_eq_symbol_iff`: the bytes that are symbols by themselves are the spellings of
  length one.
* `Kind.renderBytes_ofByte`: a byte that is not illegal renders as itself.
* `Symbol.longestPrefix?_cons_eq_none_iff`: no symbol begins exactly at the bytes of markers.
-/

namespace Lexicon

namespace Symbol

/-! ### The table of spellings -/

/-- No spelling is empty. -/
@[simp] theorem bytes_ne_nil (s : Symbol) : s.bytes ≠ [] := by
  cases s <;> decide

/-- Every spelling has at least one byte. -/
theorem length_bytes_pos (s : Symbol) : 0 < s.bytes.length :=
  List.length_pos_iff.mpr s.bytes_ne_nil

/-- A running maximum is at least its start and at least every number met on the way. -/
private theorem le_foldl_max (f : Row → Nat) (l : List Row) (n : Nat) :
    n ≤ l.foldl (fun n row => max n (f row)) n ∧
      ∀ row ∈ l, f row ≤ l.foldl (fun n row => max n (f row)) n := by
  induction l generalizing n with
  | nil => exact ⟨Nat.le_refl n, by simp⟩
  | cons a l ih =>
      obtain ⟨hstart, hmem⟩ := ih (max n (f a))
      rw [List.foldl_cons]
      refine ⟨by omega, fun row hrow => ?_⟩
      rcases List.mem_cons.mp hrow with rfl | hrow
      · omega
      · exact hmem row hrow

/-- No spelling is longer than `maxLength`. -/
theorem length_bytes_le_maxLength (s : Symbol) : s.bytes.length ≤ maxLength := by
  obtain ⟨row, hrow, rfl⟩ := s.exists_mem_table
  rw [← bytes_eq_of_mem_table hrow]
  exact (le_foldl_max (fun row => row.bytes.length) table 0).2 row hrow

/-- A spelling of several bytes stays a spelling when it loses its last byte. -/
theorem exists_bytes_eq_dropLast (t : Symbol) (h : 1 < t.bytes.length) :
    ∃ s ∈ all, s.bytes = t.bytes.dropLast := by
  revert h
  cases t <;> decide

/-- **The spellings are closed under prefixes**: every nonempty prefix of the spelling of a symbol
is the spelling of a symbol. -/
theorem exists_bytes_eq_of_isPrefix {p : List UInt8} {t : Symbol} (hp : p ≠ [])
    (h : p <+: t.bytes) : ∃ s : Symbol, s.bytes = p := by
  have hpos : 0 < p.length := List.length_pos_iff.mpr hp
  -- The induction takes the last byte off `t` until only `p` is left.
  induction hn : t.bytes.length - p.length generalizing t with
  | zero => exact ⟨t, (h.eq_of_length_le (by omega)).symm⟩
  | succ n ih =>
      obtain ⟨s, -, hs⟩ := t.exists_bytes_eq_dropLast (by omega)
      have hlen : s.bytes.length = t.bytes.length - 1 := by rw [hs, List.length_dropLast]
      have hps : p <+: s.bytes := by
        refine List.prefix_of_prefix_length_le h ?_ (by omega)
        rw [hs]
        exact List.dropLast_prefix _
      exact ih hps (by omega)

/-! ### The search for the longest symbol -/

/-- `s` is the **longest symbol** at the front of `input`. -/
structure IsLongest (s : Symbol) (input : List UInt8) : Prop where
  /-- The spelling of `s` stands at the front. -/
  isPrefix : s.bytes <+: input
  /-- No symbol at the front is longer. -/
  length_le : ∀ t : Symbol, t.bytes <+: input → t.bytes.length ≤ s.bytes.length

/-- At most one symbol is the longest. -/
theorem IsLongest.unique {s t : Symbol} {input : List UInt8} (hs : s.IsLongest input)
    (ht : t.IsLongest input) : s = t := by
  have hst : s.bytes <+: t.bytes :=
    List.prefix_of_prefix_length_le hs.isPrefix ht.isPrefix (ht.length_le s hs.isPrefix)
  exact bytes_inj.mp (hst.eq_of_length_le (hs.length_le t ht.isPrefix))

/-- A part of the input that spells no row rules out the symbols of its length. -/
theorem length_ne_of_rowOf?_take_eq_none {input : List UInt8} {n : Nat} {t : Symbol}
    (h : rowOf? (input.take n) = none) (ht : t.bytes <+: input) : t.bytes.length ≠ n := by
  rintro rfl
  have hfound : ofBytes? (input.take t.bytes.length) = some t :=
    ofBytes?_eq_some_iff.mpr (List.prefix_iff_eq_take.mp ht)
  rw [ofBytes?, h] at hfound
  cases hfound

/-- What the bounded search finds is a row whose symbol stands at the front, and no symbol within
the bound is longer. -/
theorem longestWithin?_sound {input : List UInt8} {n : Nat} {row : Row}
    (h : longestWithin? input n = some row) :
    row ∈ table ∧ row.symbol.bytes <+: input ∧ ∀ t : Symbol, t.bytes <+: input →
      t.bytes.length ≤ n → t.bytes.length ≤ row.symbol.bytes.length := by
  induction n with
  | zero => simp only [longestWithin?, reduceCtorEq] at h
  | succ n ih =>
      rw [longestWithin?] at h
      split at h
      next row' hrow' =>
        obtain rfl := Option.some.inj h
        obtain ⟨hmem, hbytes⟩ := rowOf?_eq_some_iff.mp hrow'
        rw [← bytes_eq_of_mem_table hmem, hbytes]
        refine ⟨hmem, List.take_prefix _ _, fun t ht hlen => ?_⟩
        exact (List.prefix_take_iff.mpr ⟨ht, hlen⟩).length_le
      next hnone =>
        obtain ⟨hmem, hfront, hmax⟩ := ih h
        refine ⟨hmem, hfront, fun t ht hlen => ?_⟩
        have hne := length_ne_of_rowOf?_take_eq_none hnone ht
        exact hmax t ht (by omega)

/-- When the bounded search finds nothing, every symbol at the front exceeds the bound. -/
theorem lt_length_of_longestWithin?_eq_none {input : List UInt8} {n : Nat} {t : Symbol}
    (h : longestWithin? input n = none) (ht : t.bytes <+: input) : n < t.bytes.length := by
  induction n with
  | zero => exact t.length_bytes_pos
  | succ n ih =>
      rw [longestWithin?] at h
      split at h
      next => exact absurd h (Option.some_ne_none _)
      next hnone =>
        have hlt := ih h
        have hne := length_ne_of_rowOf?_take_eq_none hnone ht
        omega

/-- The bound of the search excludes no symbol that stands at the front. -/
theorem length_le_bound {input : List UInt8} {t : Symbol} (ht : t.bytes <+: input) :
    t.bytes.length ≤ min input.length maxLength :=
  Nat.le_min.mpr ⟨ht.length_le, t.length_bytes_le_maxLength⟩

/-- The search finds nothing exactly when no symbol stands at the front. -/
theorem longestPrefix?_eq_none_iff {input : List UInt8} :
    longestPrefix? input = none ↔ ∀ t : Symbol, ¬ t.bytes <+: input := by
  rw [longestPrefix?, Option.map_eq_none_iff]
  constructor
  · intro h t ht
    have hlt := lt_length_of_longestWithin?_eq_none h ht
    have hle := length_le_bound ht
    omega
  · intro h
    refine Option.eq_none_iff_forall_ne_some.mpr fun row hrow => ?_
    exact h row.symbol (longestWithin?_sound hrow).2.1

/-- What the search finds is the longest symbol at the front, with its length. -/
theorem longestPrefix?_sound {input : List UInt8} {s : Symbol} {n : Nat}
    (h : longestPrefix? input = some (s, n)) : s.IsLongest input ∧ n = s.bytes.length := by
  obtain ⟨row, hrow, heq⟩ := Option.map_eq_some_iff.mp h
  obtain ⟨rfl, rfl⟩ := Prod.mk.inj heq
  obtain ⟨hmem, hfront, hmax⟩ := longestWithin?_sound hrow
  rw [bytes_eq_of_mem_table hmem]
  exact ⟨⟨hfront, fun t ht => hmax t ht (length_le_bound ht)⟩, rfl⟩

/-- The search finds the longest symbol at the front. -/
theorem longestPrefix?_complete {input : List UInt8} {s : Symbol} (h : s.IsLongest input) :
    longestPrefix? input = some (s, s.bytes.length) := by
  rcases hfound : longestPrefix? input with _ | ⟨s', n⟩
  · exact absurd h.isPrefix (longestPrefix?_eq_none_iff.mp hfound s)
  · obtain ⟨hs', rfl⟩ := longestPrefix?_sound hfound
    rw [h.unique hs']

/-- **The search finds exactly the longest symbol** at the front, with its length. -/
theorem longestPrefix?_eq_some_iff {input : List UInt8} {s : Symbol} {n : Nat} :
    longestPrefix? input = some (s, n) ↔ s.IsLongest input ∧ n = s.bytes.length := by
  refine ⟨longestPrefix?_sound, ?_⟩
  rintro ⟨h, rfl⟩
  exact longestPrefix?_complete h

/-- **The search is maximal munch over the table.** It answers with a symbol and a length exactly
when a row of the table has that symbol, its spelling has that length and stands at the front of the
input, and no row with a longer spelling stands there. It answers with nothing exactly when no row
stands at the front. -/
theorem longestPrefix?_maximal_munch (input : List UInt8) :
    (∀ (s : Symbol) (n : Nat), longestPrefix? input = some (s, n) ↔
      (∃ row ∈ table, row.symbol = s ∧ (utf8 row.spelling).length = n ∧ utf8 row.spelling <+: input) ∧
      ∀ row ∈ table, n < (utf8 row.spelling).length → ¬ utf8 row.spelling <+: input) ∧
    (longestPrefix? input = none ↔ ∀ row ∈ table, ¬ utf8 row.spelling <+: input) := by
  refine ⟨fun s n => ?_, ?_⟩
  · have hfound : (∃ row ∈ table, row.symbol = s ∧ (utf8 row.spelling).length = n ∧
          utf8 row.spelling <+: input) ↔ ∃ t : Symbol, t = s ∧ t.bytes.length = n ∧
          t.bytes <+: input :=
      exists_row_iff (p := fun t bytes => t = s ∧ bytes.length = n ∧ bytes <+: input)
    have hlonger : (∀ row ∈ table, n < (utf8 row.spelling).length →
          ¬ utf8 row.spelling <+: input) ↔
          ∀ t : Symbol, n < t.bytes.length → ¬ t.bytes <+: input :=
      forall_row_iff (p := fun _ bytes => n < bytes.length → ¬ bytes <+: input)
    rw [hfound, hlonger, longestPrefix?_eq_some_iff]
    constructor
    · rintro ⟨hlongest, rfl⟩
      refine ⟨⟨s, rfl, rfl, hlongest.isPrefix⟩, fun t hlt hfront => ?_⟩
      exact Nat.not_lt.mpr (hlongest.length_le t hfront) hlt
    · rintro ⟨⟨_, rfl, rfl, hfront⟩, hmax⟩
      refine ⟨⟨hfront, fun t ht => ?_⟩, rfl⟩
      exact Nat.not_lt.mp fun hlt => hmax t hlt ht
  · rw [longestPrefix?_eq_none_iff]
    exact (forall_row_iff (p := fun _ bytes => ¬ bytes <+: input)).symm

/-! ### One further byte decides -/

/-- A spelling **grows** into the bytes that follow it when the first of them extends it to the
spelling of a symbol. -/
def Grows (spelling rest : List UInt8) : Prop :=
  ∃ b ∈ rest.head?, ∃ row ∈ table, row.bytes = spelling ++ [b]

instance (spelling rest : List UInt8) : Decidable (Grows spelling rest) :=
  inferInstanceAs (Decidable (∃ b ∈ rest.head?, ∃ row ∈ table, row.bytes = spelling ++ [b]))

/-- A spelling grows when the next byte extends it to what a symbol is rendered as. -/
theorem grows_iff {spelling rest : List UInt8} :
    Grows spelling rest ↔ ∃ b ∈ rest.head?, ∃ t : Symbol, t.bytes = spelling ++ [b] := by
  have hrow (b : UInt8) : (∃ row ∈ table, row.bytes = spelling ++ [b]) ↔
      ∃ t : Symbol, t.bytes = spelling ++ [b] :=
    exists_row_iff (p := fun _ bytes => bytes = spelling ++ [b])
  simp only [Grows, hrow]

/-- Nothing grows at the end of the input. -/
@[simp] theorem not_grows_nil (spelling : List UInt8) : ¬ Grows spelling [] := by
  simp [Grows]

/-- Only the first of the following bytes matters. -/
theorem grows_append_iff {spelling rest : List UInt8} (h : rest ≠ []) (tail : List UInt8) :
    Grows spelling (rest ++ tail) ↔ Grows spelling rest := by
  rw [Grows, Grows, List.head?_append_of_ne_nil rest h]

/-- A symbol is the longest one at its place exactly when it does not grow into what follows. -/
theorem isLongest_append_iff {s : Symbol} {rest : List UInt8} :
    s.IsLongest (s.bytes ++ rest) ↔ ¬ Grows s.bytes rest := by
  rw [grows_iff]
  constructor
  · rintro h ⟨b, hb, t, ht⟩
    obtain ⟨tail, rfl⟩ := List.head?_eq_some_iff.mp hb
    have hle := h.length_le t ⟨tail, by rw [ht, List.append_assoc, List.singleton_append]⟩
    rw [ht, List.length_append, List.length_singleton] at hle
    omega
  · intro h
    refine ⟨List.prefix_append _ _, fun t ht => ?_⟩
    by_contra hlt
    -- A longer rival `t` continues `s` by `b`, and its part up to `b` is a symbol too.
    obtain ⟨q, hq⟩ : s.bytes <+: t.bytes :=
      List.prefix_of_prefix_length_le (List.prefix_append _ _) ht (by omega)
    rw [← hq] at ht hlt
    cases q with
    | nil => simp at hlt
    | cons b q =>
        obtain ⟨tail, rfl⟩ : ∃ tail, rest = b :: tail := by
          obtain ⟨r, hr⟩ := (List.prefix_append_right_inj _).mp ht
          exact ⟨q ++ r, by rw [← hr, List.cons_append]⟩
        obtain ⟨u, hu⟩ := exists_bytes_eq_of_isPrefix (p := s.bytes ++ [b]) (t := t) (by simp)
          ⟨q, by rw [← hq, List.append_assoc, List.singleton_append]⟩
        exact h ⟨b, rfl, u, hu⟩

end Symbol

/-! ### Single bytes -/

namespace Kind

/-- A single byte is a symbol or a marker. -/
theorem ofByte_cases (b : UInt8) :
    (∃ s, ofByte b = symbol s) ∨ ∃ m, ofByte b = marker m := by
  unfold ofByte
  split <;> simp

/-- The bytes that are symbols by themselves are the spellings of length one. -/
theorem ofByte_eq_symbol_iff {b : UInt8} {s : Symbol} : ofByte b = symbol s ↔ s.bytes = [b] := by
  constructor
  · intro h
    unfold ofByte at h
    split at h <;> cases h <;> decide
  · intro h
    cases s <;> cases h <;> rfl

/-- A byte that is no symbol by itself is a marker. -/
theorem exists_ofByte_eq_marker {b : UInt8} (h : (ofByte b).isSymbol = false) :
    ∃ m, ofByte b = marker m := by
  rcases ofByte_cases b with ⟨s, hs⟩ | hm
  · rw [hs] at h
    exact absurd h (by simp [isSymbol_eq])
  · exact hm

/-- A byte that is a marker, but not illegal, is the text of the marker. -/
theorem utf8_spelling_of_ofByte_eq {b : UInt8} {m : Marker} (h : ofByte b = marker m)
    (hm : m ≠ .illegal) : utf8 m.spelling = [b] := by
  unfold ofByte at h
  split at h <;> cases h
  · decide
  · decide
  · exact absurd rfl hm

/-- A byte that is not illegal renders as itself. -/
theorem renderBytes_ofByte {b : UInt8} (h : ofByte b ≠ marker .illegal) :
    (ofByte b).renderBytes = [b] := by
  rcases ofByte_cases b with ⟨s, hs⟩ | ⟨m, hm⟩
  · rw [hs]
    exact ofByte_eq_symbol_iff.mp hs
  · rw [hm] at h ⊢
    exact utf8_spelling_of_ofByte_eq hm fun hillegal => h (congrArg marker hillegal)

/-- Every byte of a spelling is a symbol by itself. -/
theorem isSymbol_ofByte_of_mem_bytes {s : Symbol} {b : UInt8} (h : b ∈ s.bytes) :
    (ofByte b).isSymbol = true := by
  have hall : s.bytes.all (fun b => (ofByte b).isSymbol) = true := by
    cases s <;> rfl
  exact List.all_eq_true.mp hall b h

end Kind

/-- No symbol begins exactly at the bytes that are markers. -/
theorem Symbol.longestPrefix?_cons_eq_none_iff {b : UInt8} {rest : List UInt8} :
    Symbol.longestPrefix? (b :: rest) = none ↔ ∃ m, Kind.ofByte b = .marker m := by
  rw [Symbol.longestPrefix?_eq_none_iff]
  constructor
  · intro h
    rcases Kind.ofByte_cases b with ⟨s, hs⟩ | hm
    · have hfront : s.bytes <+: b :: rest := ⟨rest, by rw [Kind.ofByte_eq_symbol_iff.mp hs]; rfl⟩
      exact absurd hfront (h s)
    · exact hm
  · rintro ⟨m, hm⟩ t ⟨tail, ht⟩
    rcases hbytes : t.bytes with _ | ⟨c, cs⟩
    · exact t.bytes_ne_nil hbytes
    · rw [hbytes, List.cons_append] at ht
      obtain ⟨rfl, -⟩ := List.cons.inj ht
      have hsym := Kind.isSymbol_ofByte_of_mem_bytes (s := t) (b := c) (by simp [hbytes])
      rw [hm] at hsym
      exact Bool.false_ne_true hsym

end Lexicon
