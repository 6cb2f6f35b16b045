import Lexicon.Text.Basic

/-!
# The Indexed Comparison Decides Equality Within Range

The comparison of two texts walks over their bytes with an index that runs upwards and keeps a
record of the indices at which it read. Walking on from an index answers whether the two sides agree
from there to the end, so the whole walk answers whether they agree everywhere; as their lengths
were compared first, and different texts have different bytes, that is whether the texts are equal.

Two facts about the record make it a bound on what is read. It holds exactly the indices up to the
first difference, each of which lies within both sides. And it is complete: sides of the same
lengths with the same bytes at the recorded indices are compared in the same way, whatever their
other bytes are, so that no byte was looked at without being recorded.

## Main results

* `equal_compareFrom_iff`, `mem_reads_compareFrom_iff`, `compareFrom_congr`: verdict, record and
  completeness of the record for the walk from an index.
* `equal_compareBytes_iff`, `mem_reads_compareBytes_iff`, `compareBytes_congr`: the same for the
  whole comparison.
* `sameText_compares_in_range`: two texts are found the same exactly when they are equal, and only
  bytes that both of them have are read.
-/

namespace Lexicon

variable {a b : Array UInt8} {i j : Nat}

/-! ### The walk from an index -/

/-- Two byte sequences **agree** at the indices from `i` up to `j`. -/
def Agree (a b : Array UInt8) (i j : Nat) : Prop :=
  ∀ k, i ≤ k → k < j → a[k]? = b[k]?

/-- Nothing has to agree before the first index. -/
theorem agree_of_le (h : j ≤ i) : Agree a b i j := by
  intro k hik hkj
  omega

/-- Where the sides agree at an index, that index may be left out. -/
theorem agree_iff_of_eq (h : a[i]? = b[i]?) : Agree a b i j ↔ Agree a b (i + 1) j := by
  constructor
  · intro hagree k hik hkj
    exact hagree k (by omega) hkj
  · intro hagree k hik hkj
    rcases Nat.eq_or_lt_of_le hik with rfl | hlt
    · exact h
    · exact hagree k hlt hkj

/-- Where the sides differ at an index, they agree on no range that holds it. -/
theorem agree_iff_of_ne (h : a[i]? ≠ b[i]?) : Agree a b i j ↔ j ≤ i := by
  refine ⟨fun hagree => ?_, agree_of_le⟩
  exact Nat.le_of_not_lt fun hij => h (hagree i (Nat.le_refl i) hij)

/-- **The verdict of the walk** from an index: the sides agree from there to the end. -/
theorem equal_compareFrom_iff (a b : Array UInt8) (i : Nat) :
    (compareFrom a b i).equal = true ↔ Agree a b i a.size := by
  fun_induction compareFrom a b i with
  | case1 i hi heq rest ih => rw [agree_iff_of_eq heq, ← ih]
  | case2 i hi hne => simpa [agree_iff_of_ne hne] using hi
  | case3 i hi => simpa using agree_of_le (Nat.le_of_not_lt hi)

/-- **The record of the walk** from an index holds the indices with agreement before them. -/
theorem mem_reads_compareFrom_iff (a b : Array UInt8) (i j : Nat) :
    j ∈ (compareFrom a b i).reads ↔ i ≤ j ∧ j < a.size ∧ Agree a b i j := by
  fun_induction compareFrom a b i with
  | case1 i hi heq rest ih =>
      rw [List.mem_cons, ih, agree_iff_of_eq heq]
      -- This round reads at `i` itself, with nothing before it; later rounds rely on its agreement.
      constructor
      · rintro (rfl | ⟨hij, hj, hagree⟩)
        · exact ⟨Nat.le_refl j, hi, agree_of_le (Nat.le_succ j)⟩
        · exact ⟨by omega, hj, hagree⟩
      · rintro ⟨hij, hj, hagree⟩
        rcases Nat.eq_or_lt_of_le hij with rfl | hlt
        · exact .inl rfl
        · exact .inr ⟨hlt, hj, hagree⟩
  | case2 i hi hne =>
      rw [List.mem_singleton, agree_iff_of_ne hne]
      omega
  | case3 i hi =>
      simp only [List.not_mem_nil, false_iff]
      omega

/-- **The record of the walk is complete**: other sides with the same bytes at the recorded indices
are compared in the same way. -/
theorem compareFrom_congr {x y : Array UInt8} (a b : Array UInt8) (i : Nat)
    (hsize : x.size = a.size)
    (h : ∀ j ∈ (compareFrom a b i).reads, x[j]? = a[j]? ∧ y[j]? = b[j]?) :
    compareFrom x y i = compareFrom a b i := by
  fun_induction compareFrom a b i with
  | case1 i hi heq rest ih =>
      obtain ⟨⟨hx, hy⟩, hrest⟩ := List.forall_mem_cons.mp h
      rw [compareFrom, if_pos (hsize ▸ hi), if_pos (by rw [hx, hy, heq]), ih hrest]
  | case2 i hi hne =>
      obtain ⟨hx, hy⟩ := h i (List.mem_singleton.mpr rfl)
      rw [compareFrom, if_pos (hsize ▸ hi), if_neg (by rwa [hx, hy])]
  | case3 i hi => rw [compareFrom, if_neg (hsize ▸ hi)]

/-! ### The whole comparison -/

/-- **The comparison decides equality** of byte sequences. -/
theorem equal_compareBytes_iff : (compareBytes a b).equal = true ↔ a = b := by
  unfold compareBytes
  split
  · next hsize =>
      rw [equal_compareFrom_iff]
      constructor
      · intro hagree
        refine Array.ext_getElem? fun k => ?_
        by_cases hk : k < a.size
        · exact hagree k (Nat.zero_le k) hk
        · rw [Array.getElem?_eq_none (by omega), Array.getElem?_eq_none (by omega)]
      · rintro rfl k _ _
        rfl
  · next hsize =>
      refine ⟨fun h => absurd h (by simp), ?_⟩
      rintro rfl
      exact absurd rfl hsize

/-- **The record of the comparison**: nothing if the lengths differ, and otherwise the indices with
agreement before them, which are those up to the first difference. -/
theorem mem_reads_compareBytes_iff :
    i ∈ (compareBytes a b).reads ↔ a.size = b.size ∧ i < a.size ∧ Agree a b 0 i := by
  unfold compareBytes
  split
  · next hsize => simp [mem_reads_compareFrom_iff, hsize]
  · next hsize => simp [hsize]

/-- **The record of the comparison is complete**: sides of the same lengths with the same bytes at
the recorded indices are compared in the same way. -/
theorem compareBytes_congr {x y : Array UInt8} (hx : x.size = a.size) (hy : y.size = b.size)
    (h : ∀ i ∈ (compareBytes a b).reads, x[i]? = a[i]? ∧ y[i]? = b[i]?) :
    compareBytes x y = compareBytes a b := by
  unfold compareBytes at h ⊢
  rw [hx, hy]
  split
  · next hsize =>
      rw [if_pos hsize] at h
      exact compareFrom_congr a b 0 hx h
  · rfl

/-! ### Texts -/

/-- The comparison of two texts by their bytes. -/
def compareTexts (s t : String) : Comparison :=
  compareBytes (utf8 s).toArray (utf8 t).toArray

/-- **The indexed comparison of texts.** It finds two texts the same exactly when they are equal.
It reads at the indices up to the first difference of their bytes, or nowhere if the numbers of
bytes differ, so that every index it reads at lies within the bytes of both texts. And the indices
it records are all it read at: two byte sequences of the same lengths with the same bytes at these
indices are compared in the same way. -/
theorem sameText_compares_in_range (s t : String) :
    (sameText s t = true ↔ s = t) ∧
    (∀ i, i ∈ (compareTexts s t).reads ↔ (utf8 s).length = (utf8 t).length ∧
      i < (utf8 s).length ∧ ∀ j < i, (utf8 s)[j]? = (utf8 t)[j]?) ∧
    (∀ i ∈ (compareTexts s t).reads, i < (utf8 s).length ∧ i < (utf8 t).length) ∧
    ∀ x y : Array UInt8, x.size = (utf8 s).length → y.size = (utf8 t).length →
      (∀ i ∈ (compareTexts s t).reads, x[i]? = (utf8 s)[i]? ∧ y[i]? = (utf8 t)[i]?) →
        compareBytes x y = compareTexts s t := by
  have hreads (i : Nat) : i ∈ (compareTexts s t).reads ↔ (utf8 s).length = (utf8 t).length ∧
      i < (utf8 s).length ∧ ∀ j < i, (utf8 s)[j]? = (utf8 t)[j]? := by
    simp [compareTexts, mem_reads_compareBytes_iff, Agree]
  refine ⟨?_, hreads, fun i hi => ?_, fun x y hx hy h => ?_⟩
  · have hverdict : (compareTexts s t).equal = true ↔ (utf8 s).toArray = (utf8 t).toArray :=
      equal_compareBytes_iff
    exact hverdict.trans (by simp)
  · obtain ⟨hlength, hi, -⟩ := (hreads i).mp hi
    exact ⟨hi, hlength ▸ hi⟩
  · exact compareBytes_congr (by simpa using hx) (by simpa using hy)
      (by simpa [compareTexts] using h)

/-- Two texts that differ in the second byte of their first characters are read at the two bytes of
these characters only: with other third bytes they are compared in the same way. -/
theorem sameText_compares_in_range_accents :
    (sameText "éa" "èb" = true ↔ "éa" = "èb") ∧
    (1 ∈ (compareTexts "éa" "èb").reads ∧ 1 < (utf8 "éa").length ∧ 1 < (utf8 "èb").length) ∧
    compareBytes #[0xC3, 0xA9, 0x00] #[0xC3, 0xA8, 0xFF] = compareTexts "éa" "èb" := by
  have hreads : (compareTexts "éa" "èb").reads = [0, 1] := by decide +kernel
  have hmem : 1 ∈ (compareTexts "éa" "èb").reads := by simp [hreads]
  obtain ⟨hverdict, -, hrange, hcomplete⟩ := sameText_compares_in_range "éa" "èb"
  refine ⟨hverdict, ⟨hmem, hrange 1 hmem⟩, hcomplete _ _ (by decide) (by decide) ?_⟩
  rw [hreads]
  decide

end Lexicon
