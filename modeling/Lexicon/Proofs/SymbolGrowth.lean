import Mathlib.Data.List.Infix
import Lexicon.Proofs.LongestSymbol

/-!
# A Symbol Grows Byte by Byte

`Symbol.longestPrefix?` begins with the longest part of the input that could be a symbol and goes
down from there. A scanner that reads a stream would go the other way: take a byte that is a symbol
by itself, and let it grow by one byte as long as the result is a symbol again. The second way stops
early if some spelling has a part that is no spelling, and then the two find different symbols.

They agree because **the spellings are closed under prefixes**. The same fact says what a cut does:
the longest symbol of an input that is cut off behind `k` bytes is the longest symbol of the whole,
cut off behind `k` bytes. And it says where a symbol begins: exactly at the bytes that are symbols
by themselves.

## Main definitions

* `Symbol.matchedLength`: how many bytes the longest symbol at the front spans.
* `Symbol.extend`, `Symbol.extendedPrefix?`: the search that lets a symbol grow.

## Main results

* `Symbol.longestPrefix?_agrees_ofByte`: **the search agrees with the kinds of single bytes**.
* `Symbol.IsLongest.exists_take`, `Symbol.matchedLength_take`: the longest symbol of a cut input.
* `Symbol.isLongest_extend`: growing ends at the longest symbol.
* `Symbol.longestPrefix?_grows_bytewise`: **the search finds what growing finds**, it is cut where
  the input is cut, and it depends on the first `maxLength` bytes alone.
-/

namespace Lexicon

namespace Symbol

/-! ### Where symbols begin -/

/-- No symbol stands at the front of nothing. -/
theorem not_isPrefix_nil (s : Symbol) : ¬ s.bytes <+: [] := by
  simp

/-- A symbol at the front begins with a byte that is a symbol by itself. -/
theorem exists_bytes_eq_singleton {s : Symbol} {b : UInt8} {rest : List UInt8}
    (h : s.bytes <+: b :: rest) : ∃ t : Symbol, t.bytes = [b] ∧ t.bytes <+: s.bytes := by
  have hfront : [b] <+: s.bytes :=
    List.prefix_of_prefix_length_le ⟨rest, rfl⟩ h s.length_bytes_pos
  obtain ⟨t, ht⟩ := exists_bytes_eq_of_isPrefix (List.cons_ne_nil b []) hfront
  exact ⟨t, ht, ht ▸ hfront⟩

/-- A symbol of one byte at the front is the kind of that byte. -/
theorem ofByte_eq_of_length_eq_one {s : Symbol} {b : UInt8} {rest : List UInt8}
    (h : s.bytes <+: b :: rest) (hone : s.bytes.length = 1) : Kind.ofByte b = .symbol s := by
  obtain ⟨t, ht, hts⟩ := exists_bytes_eq_singleton h
  have heq : t.bytes = s.bytes := by
    refine hts.eq_of_length ?_
    rw [ht, hone, List.length_singleton]
  rw [Kind.ofByte_eq_symbol_iff, ← heq, ht]

/-- No single byte has the kind of a symbol of several bytes. -/
theorem ofByte_ne_of_one_lt_length {s : Symbol} (h : 1 < s.bytes.length) (b : UInt8) :
    Kind.ofByte b ≠ .symbol s := by
  intro hb
  rw [Kind.ofByte_eq_symbol_iff.mp hb, List.length_singleton] at h
  omega

/-- **The search agrees with the kinds of single bytes.** It finds nothing exactly where the first
byte is a marker. A symbol of one byte is the kind of that byte. A symbol of several bytes is the
kind of no byte at all, but the first byte is a symbol too, and its spelling is a proper prefix. -/
theorem longestPrefix?_agrees_ofByte (b : UInt8) (rest : List UInt8) :
    (longestPrefix? (b :: rest) = none ↔ (Kind.ofByte b).isMarker = true) ∧
    (∀ s : Symbol, longestPrefix? (b :: rest) = some (s, 1) → Kind.symbol s = Kind.ofByte b) ∧
    ∀ (s : Symbol) (n : Nat), longestPrefix? (b :: rest) = some (s, n) → 1 < n →
      (∀ c : UInt8, Kind.symbol s ≠ Kind.ofByte c) ∧
      ∃ t : Symbol, Kind.ofByte b = .symbol t ∧ t.bytes.length = 1 ∧
        t.bytes <+: s.bytes ∧ t.bytes ≠ s.bytes := by
  refine ⟨?_, fun s hs => ?_, fun s n hs hn => ?_⟩
  · rw [longestPrefix?_cons_eq_none_iff]
    rcases Kind.ofByte_cases b with ⟨t, ht⟩ | ⟨m, hm⟩
    · simp [ht, Kind.isMarker]
    · simp [hm, Kind.isMarker]
  · obtain ⟨hlongest, hone⟩ := longestPrefix?_sound hs
    exact (ofByte_eq_of_length_eq_one hlongest.isPrefix hone.symm).symm
  · obtain ⟨hlongest, rfl⟩ := longestPrefix?_sound hs
    refine ⟨fun c => (ofByte_ne_of_one_lt_length hn c).symm, ?_⟩
    obtain ⟨t, ht, hts⟩ := exists_bytes_eq_singleton hlongest.isPrefix
    have hone : t.bytes.length = 1 := by rw [ht, List.length_singleton]
    refine ⟨t, Kind.ofByte_eq_symbol_iff.mpr ht, hone, hts, fun heq => ?_⟩
    rw [← heq] at hn
    omega

/-! ### Cutting the input -/

/-- The number of bytes that the longest symbol at the front spans; zero if there is none. -/
def matchedLength (input : List UInt8) : Nat :=
  ((longestPrefix? input).map Prod.snd).getD 0

/-- The longest symbol spans its own length. -/
theorem IsLongest.matchedLength_eq {s : Symbol} {input : List UInt8} (h : s.IsLongest input) :
    matchedLength input = s.bytes.length := by
  rw [matchedLength, longestPrefix?_complete h, Option.map_some, Option.getD_some]

/-- Without a symbol at the front, nothing is spanned. -/
theorem matchedLength_eq_zero {input : List UInt8} (h : ∀ t : Symbol, ¬ t.bytes <+: input) :
    matchedLength input = 0 := by
  rw [matchedLength, longestPrefix?_eq_none_iff.mpr h, Option.map_none, Option.getD_none]

/-- Either some symbol at the front is the longest, or no symbol stands there. -/
theorem exists_isLongest_or (input : List UInt8) :
    (∃ s : Symbol, s.IsLongest input) ∨ ∀ t : Symbol, ¬ t.bytes <+: input := by
  rcases hfound : longestPrefix? input with _ | ⟨s, n⟩
  · exact .inr (longestPrefix?_eq_none_iff.mp hfound)
  · exact .inl ⟨s, (longestPrefix?_sound hfound).1⟩

/-- **The longest symbol is cut with its input**: what is left of its spelling is the spelling of a
symbol, and that symbol is the longest one of what is left of the input. -/
theorem IsLongest.exists_take {s : Symbol} {input : List UInt8} (h : s.IsLongest input) {k : Nat}
    (hk : 0 < k) : ∃ t : Symbol, t.bytes = s.bytes.take k ∧ t.IsLongest (input.take k) := by
  have hne : s.bytes.take k ≠ [] := by
    rw [ne_eq, List.take_eq_nil_iff, not_or]
    exact ⟨by omega, s.bytes_ne_nil⟩
  obtain ⟨t, ht⟩ := exists_bytes_eq_of_isPrefix hne (List.take_prefix k s.bytes)
  refine ⟨t, ht, ?_, fun u hu => ?_⟩
  · rw [ht]
    exact h.isPrefix.take k
  · -- A rival within the cut is a rival of `s` as well, and the cut bounds its length.
    obtain ⟨hfront, hcut⟩ := List.prefix_take_iff.mp hu
    have hle := h.length_le u hfront
    rw [ht, List.length_take]
    omega

/-- **Cutting the input cuts the match.** -/
theorem matchedLength_take (input : List UInt8) (k : Nat) :
    matchedLength (input.take k) = min k (matchedLength input) := by
  rcases exists_isLongest_or input with ⟨s, hs⟩ | hnone
  · rcases Nat.eq_zero_or_pos k with rfl | hk
    · rw [List.take_zero, matchedLength_eq_zero not_isPrefix_nil, Nat.zero_min]
    · obtain ⟨t, ht, hlongest⟩ := hs.exists_take hk
      rw [hlongest.matchedLength_eq, hs.matchedLength_eq, ht, List.length_take]
  · have hnone' (t : Symbol) : ¬ t.bytes <+: input.take k := by
      intro ht
      exact hnone t (ht.trans (List.take_prefix k input))
    rw [matchedLength_eq_zero hnone, matchedLength_eq_zero hnone', Nat.min_zero]

/-- A symbol stands at the front exactly when it stands at the front of the first `maxLength`
bytes. -/
theorem isPrefix_take_maxLength_iff {s : Symbol} {input : List UInt8} :
    s.bytes <+: input.take maxLength ↔ s.bytes <+: input := by
  rw [List.prefix_take_iff]
  exact and_iff_left s.length_bytes_le_maxLength

/-- The search looks at the first `maxLength` bytes alone. -/
theorem longestPrefix?_take_maxLength (input : List UInt8) :
    longestPrefix? (input.take maxLength) = longestPrefix? input := by
  rcases exists_isLongest_or input with ⟨s, hs⟩ | hnone
  · have hcut : s.IsLongest (input.take maxLength) :=
      ⟨isPrefix_take_maxLength_iff.mpr hs.isPrefix,
        fun t ht => hs.length_le t (isPrefix_take_maxLength_iff.mp ht)⟩
    rw [longestPrefix?_complete hcut, longestPrefix?_complete hs]
  · have hcut (t : Symbol) : ¬ t.bytes <+: input.take maxLength :=
      mt isPrefix_take_maxLength_iff.mp (hnone t)
    rw [longestPrefix?_eq_none_iff.mpr hcut, longestPrefix?_eq_none_iff.mpr hnone]

/-! ### Growing -/

/-- Let a symbol **grow** into the bytes that follow it, one at a time, up to the first byte with
which it is no symbol any more. -/
def extend (s : Symbol) : List UInt8 → Symbol
  | [] => s
  | b :: rest =>
    match ofBytes? (s.bytes ++ [b]) with
    | some t => extend t rest
    | none => s

/-- The symbol at the front that begins as a single byte and grows from there, with the number of
bytes it spans. -/
def extendedPrefix? : List UInt8 → Option (Symbol × Nat)
  | [] => none
  | b :: rest => (ofBytes? [b]).map fun s => (s.extend rest, (s.extend rest).bytes.length)

/-- **Growing ends at the longest symbol.** -/
theorem isLongest_extend (s : Symbol) (rest : List UInt8) :
    (s.extend rest).IsLongest (s.bytes ++ rest) := by
  induction rest generalizing s with
  | nil => exact isLongest_append_iff.mpr (not_grows_nil s.bytes)
  | cons b rest ih =>
      rw [extend]
      rcases hnext : ofBytes? (s.bytes ++ [b]) with _ | t
      · -- One further byte decides, and with that byte there is no symbol.
        refine isLongest_append_iff.mpr (grows_iff.not.mpr ?_)
        rintro ⟨c, hc, t, ht⟩
        obtain rfl : b = c := Option.some.inj hc
        rw [ofBytes?_eq_some_iff.mpr ht] at hnext
        exact Option.some_ne_none t hnext
      · have hlongest := ih t
        rw [ofBytes?_eq_some_iff.mp hnext, List.append_assoc, List.singleton_append] at hlongest
        exact hlongest

/-- From `<` over `<<` to `<<=`, and no further. -/
example : extend .lesser (utf8 "<==") = .lshiftAssign := by
  decide +kernel

/-- Growing finds what the search finds. -/
theorem extendedPrefix?_eq (input : List UInt8) : extendedPrefix? input = longestPrefix? input := by
  rcases input with _ | ⟨b, rest⟩
  · exact (longestPrefix?_eq_none_iff.mpr not_isPrefix_nil).symm
  · rw [extendedPrefix?]
    rcases hfirst : ofBytes? [b] with _ | s
    · refine (longestPrefix?_eq_none_iff.mpr fun t ht => ?_).symm
      obtain ⟨u, hu, -⟩ := exists_bytes_eq_singleton ht
      rw [ofBytes?_eq_some_iff.mpr hu] at hfirst
      exact Option.some_ne_none u hfirst
    · have hlongest := s.isLongest_extend rest
      rw [ofBytes?_eq_some_iff.mp hfirst, List.singleton_append] at hlongest
      rw [longestPrefix?_complete hlongest, Option.map_some]

/-- **The search finds what growing finds, and it is cut where the input is cut.** The match of an
input that is cut off behind `k` bytes is the match of the whole, cut off behind `k` bytes. So a
symbol that grows by one byte at a time and stops at the first byte with which it is no symbol ends
as the symbol that the search finds. Inputs with the same first `maxLength` bytes have the same
longest symbol. -/
theorem longestPrefix?_grows_bytewise :
    (∀ (input : List UInt8) (k : Nat),
      matchedLength (input.take (min k input.length)) = min k (matchedLength input)) ∧
    (∀ input : List UInt8, extendedPrefix? input = longestPrefix? input) ∧
    ∀ input input' : List UInt8, input.take maxLength = input'.take maxLength →
      longestPrefix? input = longestPrefix? input' := by
  refine ⟨fun input k => ?_, extendedPrefix?_eq, fun input input' h => ?_⟩
  · rw [← List.take_eq_take_min, matchedLength_take]
  · calc longestPrefix? input
        = longestPrefix? (input.take maxLength) := (longestPrefix?_take_maxLength input).symm
      _ = longestPrefix? (input'.take maxLength) := congrArg longestPrefix? h
      _ = longestPrefix? input' := longestPrefix?_take_maxLength input'

end Symbol

end Lexicon
