import Lexicon.Proofs.Separation

/-!
# Where Rendering Is Faithful

A kind is rendered in two forms, as text and as bytes, and both are meant to give back what the kind
was read from. Over a whole sequence they do so unless one of two things occurs in it. The bytes of
the text differ from the rendered bytes where a character literal has a byte from `0x80` on, because
that byte becomes a character of two bytes. And what was scanned differs from what is rendered where
a byte is illegal, because an illegal byte is rendered as a word of seven letters.

Both are cases of one situation: two ways of writing the elements of a list agree except at some of
them, and there the first is longer by a fixed amount (`ExceedsAt`). The lengths of the two results
then tell how many of these elements there are, so **the differences never cancel out**.

## Main definitions

* `ExceedsAt`: two ways of writing the elements of a list, and where they differ.
* `Kind.isHighCharacter`: the character literals with a byte from `0x80` on.
* `Lexeme.slice`: the bytes that a lexeme covers.

## Main results

* `ExceedsAt.length_flatMap`, `ExceedsAt.flatMap_eq_iff`: the lengths, and when the results agree.
* `Kind.exceedsAt_utf8_render`: rendering as text against rendering as bytes.
* `Tiles.flatMap_slice`: the slices of a tiling, put together, are the stretch.
* `utf8_render_eq_renderBytes_iff`: **text and bytes differ exactly by high characters**.
* `renderBytes_scan_eq_iff`: **a scan renders back exactly when nothing is illegal**.
-/

namespace Lexicon

/-! ### Two ways of writing the elements of a list -/

/-- Two ways of writing the elements of a list **differ at the marked elements alone**, and there
the first is longer by `excess`. -/
structure ExceedsAt {α β : Type} (f g : α → List β) (marked : α → Bool) (excess : Nat)
    (l : List α) : Prop where
  /-- An element that is not marked is written alike. -/
  eq_of_not_marked : ∀ a ∈ l, marked a = false → f a = g a
  /-- A marked element is written longer in the first way. -/
  length_of_marked : ∀ a ∈ l, marked a = true → (f a).length = (g a).length + excess

namespace ExceedsAt

variable {α β : Type} {f g : α → List β} {marked : α → Bool} {excess : Nat} {l : List α}

/-- What holds of a list holds without its first element. -/
theorem of_cons {a : α} (h : ExceedsAt f g marked excess (a :: l)) :
    ExceedsAt f g marked excess l :=
  ⟨fun b hb => h.eq_of_not_marked b (List.mem_cons_of_mem a hb),
    fun b hb => h.length_of_marked b (List.mem_cons_of_mem a hb)⟩

/-- Every marked element adds the excess to the length. -/
theorem length_flatMap (h : ExceedsAt f g marked excess l) :
    (l.flatMap f).length = (l.flatMap g).length + excess * l.countP marked := by
  induction l with
  | nil => rfl
  | cons a l ih =>
      have htail := ih h.of_cons
      rw [List.flatMap_cons, List.flatMap_cons, List.length_append, List.length_append, htail]
      cases hmarked : marked a with
      | false =>
          have hhead := h.eq_of_not_marked a List.mem_cons_self hmarked
          rw [List.countP_cons_of_neg (by simp [hmarked]), hhead]
          omega
      | true =>
          have hhead := h.length_of_marked a List.mem_cons_self hmarked
          rw [List.countP_cons_of_pos hmarked, hhead, Nat.mul_add_one]
          omega

/-- **The results agree exactly when nothing is marked**: a marked element changes the length, and
no other element can make up for that. -/
theorem flatMap_eq_iff (h : ExceedsAt f g marked excess l) (hpos : 0 < excess) :
    l.flatMap f = l.flatMap g ↔ ∀ a ∈ l, marked a = false := by
  constructor
  · intro heq a ha
    have hlength := h.length_flatMap
    rw [heq] at hlength
    have hzero : excess * l.countP marked = 0 := by omega
    have hcount : l.countP marked = 0 := (Nat.mul_eq_zero.mp hzero).resolve_left (by omega)
    exact Bool.eq_false_iff.mpr (List.countP_eq_zero.mp hcount a ha)
  · intro hnone
    exact List.flatMap_congr fun a ha => h.eq_of_not_marked a ha (hnone a ha)

end ExceedsAt

/-! ### As text and as bytes -/

/-- The bytes of joined texts are the joined bytes. -/
theorem utf8_join (texts : List String) : utf8 (String.join texts) = texts.flatMap utf8 := by
  rw [utf8, String.toList_join, List.flatMap_assoc]
  rfl

namespace Kind

/-- Whether a kind is a character literal whose byte is not ASCII. -/
def isHighCharacter : Kind → Bool
  | character b => 0x80 ≤ b.toNat
  | _ => false

/-- From `0x80` on, the character of a byte takes two bytes. -/
theorem length_utf8EncodeChar_byteChar_of_le {b : UInt8} (h : 0x80 ≤ b.toNat) :
    (String.utf8EncodeChar (byteChar b)).length = 2 := by
  have hval : (byteChar b).val.toNat = b.toNat := toNat_byteChar b
  have hbound := b.toNat_lt
  have hlow : ¬ (byteChar b).val.toNat ≤ 0x7f := by omega
  have hhigh : (byteChar b).val.toNat ≤ 0x7ff := by omega
  simp only [String.utf8EncodeChar, if_neg hlow, if_pos hhigh, List.length_cons, List.length_nil]

/-- The text of every kind but a high character has the bytes of the kind. -/
theorem utf8_render_of_not_isHighCharacter {k : Kind} (h : k.isHighCharacter = false) :
    utf8 k.render = k.renderBytes := by
  cases k with
  | character b =>
      have hlt : b.toNat < 0x80 := Nat.not_le.mp (of_decide_eq_false h)
      rw [utf8_render_character, utf8EncodeChar_byteChar_of_lt hlt]
      rfl
  | _ => rfl

/-- The text of a high character has one byte more than the kind. -/
theorem length_utf8_render_of_isHighCharacter {k : Kind} (h : k.isHighCharacter = true) :
    (utf8 k.render).length = k.renderBytes.length + 1 := by
  cases k with
  | character b =>
      have hle : 0x80 ≤ b.toNat := of_decide_eq_true h
      rw [utf8_render_character, length_utf8EncodeChar_byteChar_of_le hle]
      rfl
  | _ => exact absurd h (by simp [isHighCharacter])

/-- The last byte of all, as text and as bytes. -/
example : utf8 (character 0xff).render = [0xc3, 0xbf] ∧ (character 0xff).renderBytes = [0xff] := by
  decide

/-- Rendering **as text** against rendering **as bytes**. -/
theorem exceedsAt_utf8_render (kinds : List Kind) :
    ExceedsAt (fun k => utf8 (render k)) renderBytes isHighCharacter 1 kinds :=
  ⟨fun _ _ => utf8_render_of_not_isHighCharacter, fun _ _ => length_utf8_render_of_isHighCharacter⟩

end Kind

/-- **Text and bytes differ exactly by high characters.** The renderings of some kinds as text, one
after the other, take as many bytes in UTF-8 as their renderings as bytes, and one more for each
character literal whose byte is at least `0x80`. They have the same bytes exactly when there is no
such literal. -/
theorem utf8_render_eq_renderBytes_iff (kinds : List Kind) :
    (String.join (kinds.map Kind.render)).utf8ByteSize =
        (kinds.flatMap Kind.renderBytes).length + kinds.countP Kind.isHighCharacter ∧
      (utf8 (String.join (kinds.map Kind.render)) = kinds.flatMap Kind.renderBytes ↔
        ∀ k ∈ kinds, k.isHighCharacter = false) := by
  have hexceeds := Kind.exceedsAt_utf8_render kinds
  have hlength := hexceeds.length_flatMap
  rw [Nat.one_mul] at hlength
  have hjoin : utf8 (String.join (kinds.map Kind.render)) =
      kinds.flatMap fun k => utf8 k.render := by
    rw [utf8_join, List.flatMap_map]
  rw [← length_utf8, hjoin]
  exact ⟨hlength, hexceeds.flatMap_eq_iff Nat.one_pos⟩

/-! ### The bytes of lexemes -/

/-- The bytes of the input that a lexeme **covers**. -/
def Lexeme.slice (input : List UInt8) (l : Lexeme) : List UInt8 :=
  (input.drop l.offset).take l.length

/-- The slices of a tiling, put together, are **the stretch that is tiled**. -/
theorem Tiles.flatMap_slice {start size : Nat} {lexemes : List Lexeme}
    (h : Tiles start size lexemes) (input : List UInt8) :
    lexemes.flatMap (Lexeme.slice input) = (input.drop start).take size := by
  induction lexemes generalizing start size with
  | nil =>
      obtain rfl : 0 = size := h.sum_length
      rw [List.flatMap_nil, List.take_zero]
  | cons l lexemes ih =>
      have hoffset := h.offset_head l (by simp)
      obtain ⟨-, hend⟩ := h.bounds_of_mem (l := l) List.mem_cons_self
      obtain ⟨rest, rfl⟩ : ∃ rest, size = l.length + rest := ⟨size - l.length, by omega⟩
      have htail := ih h.tail
      rw [Nat.add_sub_cancel_left] at htail
      rw [List.flatMap_cons, htail, Lexeme.slice, hoffset, List.take_add, List.drop_drop]

/-- The slices of a scan, put together, are the input. -/
theorem flatMap_slice_scan (input : List UInt8) :
    (scan input).flatMap (Lexeme.slice input) = input := by
  rw [(scans_scan input).tiles.flatMap_slice, List.drop_zero, List.take_length]

/-- The slice of a single byte. -/
theorem Lexeme.slice_byte {input : List UInt8} {offset : Nat} {b : UInt8} {k : Kind}
    (h : input[offset]? = some b) : Lexeme.slice input ⟨offset, .byte, k, 1⟩ = [b] := by
  rw [Lexeme.slice, List.take_one, List.head?_drop, h]
  rfl

/-- The word for an illegal byte has seven letters. -/
theorem Kind.length_renderBytes_illegal : (marker .illegal).renderBytes.length = 7 := by
  decide

namespace Lexeme.Reads

/-- A lexeme that is not illegal **renders as the bytes that it covers**. -/
theorem renderBytes_eq_slice {input : List UInt8} {l : Lexeme} (h : l.Reads input)
    (hne : l.kind ≠ .marker .illegal) : l.kind.renderBytes = l.slice input := by
  cases h with
  | symbol hfront => exact List.prefix_iff_eq_take.mp hfront
  | @byte offset b m hb hm =>
      have hspelling := Kind.utf8_spelling_of_ofByte_eq hm fun hillegal => hne (by rw [hillegal])
      exact hspelling.trans (Lexeme.slice_byte hb).symm

/-- An illegal lexeme renders as six bytes more than it covers. -/
theorem length_renderBytes_of_illegal {input : List UInt8} {l : Lexeme} (h : l.Reads input)
    (hillegal : l.kind = .marker .illegal) :
    l.kind.renderBytes.length = (l.slice input).length + 6 := by
  cases h with
  | symbol _ => exact absurd hillegal (by simp)
  | @byte offset b m hb _ =>
      obtain rfl : m = .illegal := Kind.marker.inj hillegal
      rw [Lexeme.slice_byte hb, Kind.length_renderBytes_illegal, List.length_singleton]

end Lexeme.Reads

/-! ### Rendering a scan back -/

/-- What a scan renders as against what it covers. -/
theorem exceedsAt_renderBytes_scan (input : List UInt8) :
    ExceedsAt (fun l => Kind.renderBytes l.kind) (Lexeme.slice input)
      (fun l => l.kind = .marker .illegal) 6 (scan input) := by
  refine ⟨fun l hl hmarked => ?_, fun l hl hmarked => ?_⟩
  · exact (reads_of_mem_scan hl).renderBytes_eq_slice (of_decide_eq_false hmarked)
  · exact (reads_of_mem_scan hl).length_renderBytes_of_illegal (of_decide_eq_true hmarked)

/-- What the kinds of single bytes render as against the bytes. -/
theorem exceedsAt_renderBytes_ofByte (input : List UInt8) :
    ExceedsAt (fun b => (Kind.ofByte b).renderBytes) (fun b => [b])
      (fun b => Kind.ofByte b = .marker .illegal) 6 input := by
  refine ⟨fun b _ hmarked => ?_, fun b _ hmarked => ?_⟩
  · exact Kind.renderBytes_ofByte (of_decide_eq_false hmarked)
  · rw [of_decide_eq_true hmarked, Kind.length_renderBytes_illegal, List.length_singleton]

/-- The scan has as many illegal lexemes as the input has illegal bytes. -/
theorem Scans.countP_illegal {offset : Nat} {input : List UInt8} {lexemes : List Lexeme}
    (h : Scans offset input lexemes) :
    lexemes.countP (fun l => l.kind = .marker .illegal) =
      input.countP (fun b => Kind.ofByte b = .marker .illegal) := by
  induction h with
  | nil => rfl
  | @symbol offset s rest lexemes _ _ ih =>
      have hnone : s.bytes.countP (fun b => Kind.ofByte b = .marker .illegal) = 0 := by
        refine List.countP_eq_zero.mpr fun b hb hillegal => ?_
        have hsymbol := Kind.isSymbol_ofByte_of_mem_bytes hb
        rw [of_decide_eq_true hillegal] at hsymbol
        exact Bool.false_ne_true hsymbol
      rw [List.countP_append, hnone, List.countP_cons_of_neg (by simp), ih, Nat.zero_add]
  | @byte offset b m rest lexemes hm _ ih => rw [List.countP_cons, List.countP_cons, ih, hm]

/-- **A scan renders back exactly when nothing is illegal.** The kinds of a scan render as six bytes
more than the input for each illegal lexeme, and as the input itself exactly when there is none. The
same holds when the input is not scanned but every byte is classified by itself; and there are as
many illegal bytes then as there are illegal lexemes in the scan. -/
theorem renderBytes_scan_eq_iff (input : List UInt8) :
    (((scan input).flatMap fun l => l.kind.renderBytes).length =
        input.length + 6 * (scan input).countP (fun l => l.kind = .marker .illegal) ∧
      (((scan input).flatMap fun l => l.kind.renderBytes) = input ↔
        ∀ l ∈ scan input, l.kind ≠ .marker .illegal)) ∧
    ((input.flatMap fun b => (Kind.ofByte b).renderBytes).length =
        input.length + 6 * input.countP (fun b => Kind.ofByte b = .marker .illegal) ∧
      ((input.flatMap fun b => (Kind.ofByte b).renderBytes) = input ↔
        ∀ b ∈ input, Kind.ofByte b ≠ .marker .illegal)) ∧
    (scan input).countP (fun l => l.kind = .marker .illegal) =
      input.countP (fun b => Kind.ofByte b = .marker .illegal) := by
  have hscan := exceedsAt_renderBytes_scan input
  have hbytes := exceedsAt_renderBytes_ofByte input
  have hslices := flatMap_slice_scan input
  have hsingle : (input.flatMap fun b => [b]) = input := List.flatMap_singleton' input
  have hscanLength := hscan.length_flatMap
  have hscanIff := hscan.flatMap_eq_iff (by omega)
  have hbytesLength := hbytes.length_flatMap
  have hbytesIff := hbytes.flatMap_eq_iff (by omega)
  rw [hslices] at hscanLength hscanIff
  rw [hsingle] at hbytesLength hbytesIff
  simp only [decide_eq_false_iff_not] at hscanIff hbytesIff
  exact ⟨⟨hscanLength, hscanIff⟩, ⟨hbytesLength, hbytesIff⟩, (scans_scan input).countP_illegal⟩

end Lexicon
