import Lexicon.Proofs.Concatenation
import Lexicon.Proofs.Separation

/-!
# Scanning Respects Characters

The scan works on bytes and knows nothing of the characters that they encode. On the bytes of a text
it still never cuts a character in two. A byte from `0x80` on is illegal wherever it stands, so the
bytes of a character that is not ASCII are scanned one by one, and what stands before and behind
them is scanned as if it stood alone. A symbol, on the other hand, has ASCII bytes only, and **an
ASCII byte in a text is a whole character**: what stands before it is the encoding of a text, and so
is what stands behind it.

## Main definitions

* `illegalRun`: illegal single bytes, side by side.

## Main results

* `exists_utf8_of_append_cons`: a text may be cut at every ASCII byte.
* `exists_append_of_utf8_eq`: ASCII text among the bytes of a text is a part of the text.
* `scanFrom_append_of_le`: bytes from `0x80` on are scanned one by one.
* `scan_utf8_append`: a character that is not ASCII divides the scan.
* `scan_utf8_respects_characters`: **the scan respects characters**.
-/

namespace Lexicon

/-! ### Texts cut at ASCII bytes -/

/-- The bytes of some characters may be cut at every ASCII byte: on both sides of it there are the
bytes of characters. -/
theorem exists_flatMap_utf8EncodeChar_of_append_cons {chars : List Char} {a b : List UInt8}
    {x : UInt8} (hx : x.toNat < 0x80)
    (h : chars.flatMap String.utf8EncodeChar = a ++ x :: b) :
    ∃ before after : List Char, before.flatMap String.utf8EncodeChar = a ∧
      after.flatMap String.utf8EncodeChar = b := by
  induction chars generalizing a with
  | nil => exact absurd h (by simp)
  | cons c chars ih =>
      rw [List.flatMap_cons] at h
      -- Either `a` goes on behind the bytes of `c`, or it ends with them or among them.
      rcases List.append_eq_append_iff.mp h with ⟨a', rfl, hrest⟩ | ⟨tail, hc, hrest⟩
      · obtain ⟨before, after, hbefore, hafter⟩ := ih hrest
        exact ⟨c :: before, after, by rw [List.flatMap_cons, hbefore], hafter⟩
      · cases tail with
        | nil =>
            obtain ⟨before, after, hbefore, hafter⟩ := ih (a := []) hrest.symm
            refine ⟨c :: before, after, ?_, hafter⟩
            rw [List.flatMap_cons, hbefore, hc, List.append_nil, List.append_nil]
        | cons y tail =>
            -- The ASCII byte belongs to `c`, so it is all of `c`.
            obtain ⟨rfl, rfl⟩ := List.cons.inj hrest
            have hmem : x ∈ String.utf8EncodeChar c := by
              rw [hc]
              exact List.mem_append_right a List.mem_cons_self
            have hascii : c.toNat < 0x80 := toNat_lt_of_mem_utf8EncodeChar hmem hx
            have hone := congrArg List.length hc
            rw [utf8EncodeChar_of_lt hascii, List.length_singleton, List.length_append,
              List.length_cons] at hone
            obtain rfl : a = [] := List.length_eq_zero_iff.mp (by omega)
            obtain rfl : tail = [] := List.length_eq_zero_iff.mp (by omega)
            exact ⟨[], chars, rfl, rfl⟩

/-- **A text may be cut at every ASCII byte**: what stands before the byte and what stands behind it
are the bytes of texts. -/
theorem exists_utf8_of_append_cons {s : String} {a b : List UInt8} {x : UInt8}
    (hx : x.toNat < 0x80) (h : utf8 s = a ++ x :: b) :
    ∃ before after : String, utf8 before = a ∧ utf8 after = b := by
  obtain ⟨before, after, hbefore, hafter⟩ := exists_flatMap_utf8EncodeChar_of_append_cons hx h
  refine ⟨String.ofList before, String.ofList after, ?_, ?_⟩
  · rw [utf8, String.toList_ofList, hbefore]
  · rw [utf8, String.toList_ofList, hafter]

/-- ASCII text among the bytes of a text is **a part of the text**. -/
theorem exists_append_of_utf8_eq {s t : String} {a b : List UInt8} (hne : utf8 t ≠ [])
    (hascii : ∀ x ∈ utf8 t, x.toNat < 0x80) (h : utf8 s = a ++ utf8 t ++ b) :
    ∃ before after : String, s = before ++ t ++ after ∧ utf8 before = a ∧ utf8 after = b := by
  -- The first byte of `t` cuts off what stands before it, the last byte what stands behind it.
  obtain ⟨x, xs, hfirst⟩ := List.exists_cons_of_ne_nil hne
  have hcut : utf8 s = a ++ x :: (xs ++ b) := by
    rw [h, hfirst, List.append_assoc, List.cons_append]
  have hx : x.toNat < 0x80 := hascii x (by rw [hfirst]; exact List.mem_cons_self)
  obtain ⟨before, -, hbefore, -⟩ := exists_utf8_of_append_cons hx hcut
  obtain ⟨ys, y, hlast⟩ := (List.eq_nil_or_concat' (utf8 t)).resolve_left hne
  have hcut' : utf8 s = (a ++ ys) ++ y :: b := by
    rw [h, hlast, ← List.append_assoc, List.append_assoc (a ++ ys), List.singleton_append]
  have hy : y.toNat < 0x80 := hascii y (by rw [hlast]; exact List.mem_concat_self)
  obtain ⟨-, after, -, hafter⟩ := exists_utf8_of_append_cons hy hcut'
  refine ⟨before, after, ?_, hbefore, hafter⟩
  rw [← utf8_inj, utf8_append, utf8_append, hbefore, hafter, h]

/-- A text with ASCII bytes has ASCII characters. -/
theorem toNat_lt_of_mem_toList {t : String} (hascii : ∀ x ∈ utf8 t, x.toNat < 0x80) {c : Char}
    (hc : c ∈ t.toList) : c.toNat < 0x80 := by
  obtain ⟨x, hmem⟩ := List.exists_mem_of_ne_nil _ (String.utf8EncodeChar_ne_nil (c := c))
  have hx := hascii x (List.mem_flatMap.mpr ⟨c, hc, hmem⟩)
  exact toNat_lt_of_mem_utf8EncodeChar hmem hx

/-! ### Symbols in a text -/

/-- A symbol that is found in a text covers **whole characters**, and they are those of its
rendering. -/
theorem Lexeme.Reads.exists_append {s : String} {l : Lexeme} (h : l.Reads (utf8 s))
    (horigin : l.origin = .symbol) :
    ∃ before after : String, s = before ++ l.kind.render ++ after ∧
      l.offset = before.utf8ByteSize ∧ l.length = l.kind.render.utf8ByteSize ∧
      ∀ c ∈ l.kind.render.toList, c.toNat < 0x80 := by
  cases h with
  | @symbol offset t hfront =>
      have hascii : ∀ x ∈ utf8 t.spelling, x.toNat < 0x80 :=
        fun x hx => Symbol.toNat_lt_of_mem_bytes (s := t) hx
      obtain ⟨tail, htail⟩ := hfront
      have hsplit : utf8 s = (utf8 s).take offset ++ utf8 t.spelling ++ tail := by
        rw [List.append_assoc, ← Symbol.bytes, htail, List.take_append_drop]
      have hle : offset ≤ (utf8 s).length := by
        have hlength := congrArg List.length htail
        have hpos := t.length_bytes_pos
        rw [List.length_append, List.length_drop] at hlength
        omega
      obtain ⟨before, after, hs, hbefore, -⟩ :=
        exists_append_of_utf8_eq t.bytes_ne_nil hascii hsplit
      refine ⟨before, after, hs, ?_, length_utf8 t.spelling, fun c => toNat_lt_of_mem_toList hascii⟩
      rw [← length_utf8, hbefore, List.length_take, Nat.min_eq_left hle]
  | byte _ _ => exact absurd horigin (by simp)

/-! ### Characters that are not ASCII -/

/-- The lexemes of `n` **illegal bytes**, the first of which stands at `offset`. -/
def illegalRun (offset n : Nat) : List Lexeme :=
  (List.range' offset n).map fun i => ⟨i, .byte, .marker .illegal, 1⟩

/-- Bytes from `0x80` on are scanned **one by one**, whatever follows. -/
theorem scanFrom_append_of_le {bytes : List UInt8} (h : ∀ b ∈ bytes, 0x80 ≤ b.toNat)
    (offset : Nat) (rest : List UInt8) :
    scanFrom offset (bytes ++ rest) =
      illegalRun offset bytes.length ++ scanFrom (offset + bytes.length) rest := by
  induction bytes generalizing offset with
  | nil => rfl
  | cons b bytes ih =>
      obtain ⟨hb, hbytes⟩ := List.forall_mem_cons.mp h
      rw [List.cons_append, scanFrom_byte (Kind.ofByte_of_le hb), ih hbytes, List.length_cons,
        Nat.add_assoc, Nat.add_comm 1]
      rfl

/-- **A character that is not ASCII divides the scan**: what stands before it is scanned as if
nothing followed, its own bytes are illegal, and the scan begins anew behind it. -/
theorem scan_utf8_append {c : Char} (hc : 0x80 ≤ c.toNat) (before after : String) :
    scan (utf8 (before ++ String.singleton c ++ after)) =
      scan (utf8 before) ++ illegalRun before.utf8ByteSize c.utf8Size ++
        scanFrom (before.utf8ByteSize + c.utf8Size) (utf8 after) := by
  have hhigh : ∀ b ∈ String.utf8EncodeChar c, 0x80 ≤ b.toNat :=
    fun b hb => le_toNat_of_mem_utf8EncodeChar hc hb
  have hbytes : utf8 (before ++ String.singleton c ++ after) =
      utf8 before ++ (String.utf8EncodeChar c ++ utf8 after) := by
    simp [utf8]
  have hrest := scanFrom_append_of_le hhigh (0 + (utf8 before).length) (utf8 after)
  rw [Nat.zero_add, length_utf8, String.length_utf8EncodeChar] at hrest
  rw [hbytes, List.append_assoc, ← hrest]
  refine Scans.scanFrom_eq (((scans_scan (utf8 before)).append_iff ?_).mpr fun l _ _ => ?_)
  · rw [Nat.zero_add, length_utf8]
    exact scans_scanFrom _ _
  · refine Symbol.not_grows_of_head? fun b hb => Kind.isSymbol_ofByte_of_le (hhigh b ?_)
    rw [List.head?_append_of_ne_nil _ String.utf8EncodeChar_ne_nil] at hb
    exact List.mem_of_mem_head? hb

/-- Only its illegal bytes **cover a character** that is not ASCII. -/
theorem mem_illegalRun_of_covers {c : Char} (hc : 0x80 ≤ c.toNat) {before after : String}
    {l : Lexeme} (hl : l ∈ scan (utf8 (before ++ String.singleton c ++ after))) {i : Nat}
    (hstart : before.utf8ByteSize ≤ i) (hend : i < before.utf8ByteSize + c.utf8Size)
    (hcovers : l.Covers i) : l ∈ illegalRun before.utf8ByteSize c.utf8Size := by
  obtain ⟨hoffset, hlength⟩ := hcovers
  rw [scan_utf8_append hc, List.mem_append, List.mem_append] at hl
  rcases hl with (hl | hl) | hl
  · obtain ⟨-, hbefore⟩ := (scans_scan (utf8 before)).tiles.bounds_of_mem hl
    rw [length_utf8] at hbefore
    omega
  · exact hl
  · obtain ⟨hafter, -⟩ := (scans_scanFrom _ (utf8 after)).tiles.bounds_of_mem hl
    omega

/-- **The scan respects characters.** In the scan of a text, whatever was found as a symbol begins
and ends between two characters of the text and covers ASCII characters only, namely those of its
rendering. A character that is not ASCII is covered by illegal single bytes that follow each other
in the scan, as many as the character has bytes in UTF-8, and by nothing else. -/
theorem scan_utf8_respects_characters (s : String) :
    (∀ l ∈ scan (utf8 s), l.origin = .symbol →
      ∃ before after : String, s = before ++ l.kind.render ++ after ∧
        l.offset = before.utf8ByteSize ∧ l.length = l.kind.render.utf8ByteSize ∧
        ∀ c ∈ l.kind.render.toList, c.toNat < 0x80) ∧
    ∀ (before after : String) (c : Char), s = before ++ String.singleton c ++ after →
      0x80 ≤ c.toNat →
      illegalRun before.utf8ByteSize c.utf8Size <:+: scan (utf8 s) ∧
      ∀ l ∈ scan (utf8 s), ∀ i, before.utf8ByteSize ≤ i →
        i < before.utf8ByteSize + c.utf8Size → l.Covers i →
          l ∈ illegalRun before.utf8ByteSize c.utf8Size := by
  refine ⟨fun l hl horigin => (reads_of_mem_scan hl).exists_append horigin, ?_⟩
  rintro before after c rfl hc
  refine ⟨?_, fun l hl i hstart hend hcovers => mem_illegalRun_of_covers hc hl hstart hend hcovers⟩
  rw [scan_utf8_append hc]
  exact List.infix_append _ _ _

end Lexicon
