import Mathlib.Data.List.Dedup
import Lexicon.Proofs.Lookup

/-!
# The Last Entry Decides

A map that is filled from a list of entries answers a query with the last entry at the key. Earlier
entries at the same key leave no trace: they do not answer, and they are not counted, so the size of
the map is the number of different keys in the list.

Whether the order of the entries matters is a question of repeated keys alone. If no key is
repeated, every entry is the last one at its key. What the map answers is then settled by which
entries there are, and a permutation of them changes nothing.

## Main definitions

* `Assoc.IsLast`: a value stands in the last entry at a key.

## Main results

* `Assoc.find?_ofList_eq_some_iff`, `Assoc.find?_ofList_eq_none_iff`: the answers of a filled map.
* `Assoc.size_ofList`: its size is the number of different keys.
* `Assoc.find?_ofList_perm`: entries with distinct keys may come in any order.
* `Assoc.ofList_answers_last_entry`: **how an index is filled**, put together.
-/

namespace Lexicon

namespace Assoc

variable {κ α : Type} {entries : List (κ × α)} {k : κ} {a : α}

/-- A value stands in the **last entry** at a key: no entry behind it has that key. -/
def IsLast (entries : List (κ × α)) (k : κ) (a : α) : Prop :=
  ∃ before after, entries = before ++ (k, a) :: after ∧ k ∉ after.map Prod.fst

/-- A value in the last entry at a key is in some entry at it. -/
theorem IsLast.mem (h : IsLast entries k a) : (k, a) ∈ entries := by
  obtain ⟨before, after, rfl, -⟩ := h
  exact List.mem_append_right before List.mem_cons_self

/-- If no key is repeated, **every entry is the last one** at its key. -/
theorem isLast_iff_mem (hkeys : (entries.map Prod.fst).Nodup) :
    IsLast entries k a ↔ (k, a) ∈ entries := by
  refine ⟨IsLast.mem, fun hmem => ?_⟩
  obtain ⟨before, after, rfl⟩ := List.append_of_mem hmem
  refine ⟨before, after, rfl, ?_⟩
  rw [List.map_append, List.map_cons] at hkeys
  have hbehind : ((k, a).1 :: after.map Prod.fst).Nodup := hkeys.of_append_right
  exact (List.nodup_cons.mp hbehind).1

variable [DecidableEq κ]

/-! ### Answers -/

/-- A filled map finds a value at a key exactly when it stands in **the last entry** there. -/
theorem find?_ofList_eq_some_iff : (ofList entries).find? k = some a ↔ IsLast entries k a := by
  rw [find?_ofList, Option.map_eq_some_iff]
  constructor
  · -- The search goes from the end, so what it passed over stands behind what it found.
    rintro ⟨⟨k', a'⟩, hfound, rfl⟩
    obtain ⟨hkey, after, before, hentries, hnot⟩ := List.find?_eq_some_iff_append.mp hfound
    obtain rfl : k' = k := of_decide_eq_true hkey
    refine ⟨before.reverse, after.reverse, ?_, fun hmem => ?_⟩
    · rw [List.reverse_eq_append_iff.mp hentries, List.reverse_cons, List.append_assoc]
      rfl
    · obtain ⟨e, he, hek⟩ := List.mem_map.mp hmem
      have hother := hnot e (List.mem_reverse.mp he)
      simp [hek] at hother
  · rintro ⟨before, after, rfl, hnot⟩
    refine ⟨(k, a), List.find?_eq_some_iff_append.mpr ⟨decide_eq_true rfl, ?_⟩, rfl⟩
    refine ⟨after.reverse, before.reverse, by simp, fun e he => ?_⟩
    have hek : e.1 ≠ k := by
      rintro rfl
      exact hnot (List.mem_map_of_mem (List.mem_reverse.mp he))
    simp [hek]

/-- A search finds nothing at a key exactly when no pair has it. -/
theorem map_find?_eq_none_iff (pairs : List (κ × α)) (k : κ) :
    (pairs.find? fun p => p.1 = k).map Prod.snd = none ↔ k ∉ pairs.map Prod.fst := by
  rw [Option.map_eq_none_iff, List.find?_eq_none]
  constructor
  · intro hnot hmem
    obtain ⟨p, hp, rfl⟩ := List.mem_map.mp hmem
    exact hnot p hp (decide_eq_true rfl)
  · intro hnot p hp hkey
    exact hnot (List.mem_map.mpr ⟨p, hp, of_decide_eq_true hkey⟩)

/-- A filled map finds nothing at a key exactly when **no entry has it**. -/
theorem find?_ofList_eq_none_iff :
    (ofList entries).find? k = none ↔ k ∉ entries.map Prod.fst := by
  rw [find?_ofList, map_find?_eq_none_iff, List.map_reverse, List.mem_reverse]

/-! ### Size -/

/-- The keys of a filled map are the keys of its entries. -/
theorem mem_keys_ofList :
    k ∈ (ofList entries).pairs.map Prod.fst ↔ k ∈ entries.map Prod.fst := by
  have hnone : k ∉ (ofList entries).pairs.map Prod.fst ↔ k ∉ entries.map Prod.fst := by
    rw [← map_find?_eq_none_iff, ← find?, find?_ofList_eq_none_iff]
  exact not_iff_not.mp hnone

/-- The size of a filled map is **the number of different keys** of its entries. -/
theorem size_ofList (entries : List (κ × α)) :
    (ofList entries).size = (entries.map Prod.fst).dedup.length := by
  -- Neither list of keys repeats one, and they have the same members.
  have hperm : ((ofList entries).pairs.map Prod.fst).Perm (entries.map Prod.fst).dedup := by
    refine (List.perm_ext_iff_of_nodup (ofList entries).nodup (List.nodup_dedup _)).mpr fun k => ?_
    rw [mem_keys_ofList, List.mem_dedup]
  rw [size, ← hperm.length_eq, List.length_map]

/-! ### Distinct keys -/

/-- If no key is repeated, a map filled from the entries in **any order** gives the same answers. -/
theorem find?_ofList_perm {entries' : List (κ × α)} (hkeys : (entries.map Prod.fst).Nodup)
    (hperm : entries'.Perm entries) (k : κ) :
    (ofList entries').find? k = (ofList entries).find? k := by
  have hkeys' : (entries'.map Prod.fst).Nodup := (hperm.map Prod.fst).nodup_iff.mpr hkeys
  ext a
  rw [find?_ofList_eq_some_iff, find?_ofList_eq_some_iff, isLast_iff_mem hkeys',
    isLast_iff_mem hkeys, hperm.mem_iff]

/-- **How an index is filled.** Whatever the entries are, a query is answered with the value in the
last entry at its key, and with nothing if no entry has the key; the size is the number of different
keys. If the keys are distinct, every entry is found at its own key, all of them are counted, and
every permutation of the entries gives the same answers. -/
theorem ofList_answers_last_entry (entries : List (κ × α)) :
    (∀ k a, (ofList entries).find? k = some a ↔ IsLast entries k a) ∧
    (∀ k, (ofList entries).find? k = none ↔ k ∉ entries.map Prod.fst) ∧
    (ofList entries).size = (entries.map Prod.fst).dedup.length ∧
    ((entries.map Prod.fst).Nodup →
      (∀ e ∈ entries, (ofList entries).find? e.1 = some e.2) ∧
      (ofList entries).size = entries.length ∧
      ∀ entries' : List (κ × α), entries'.Perm entries →
        ∀ k, (ofList entries').find? k = (ofList entries).find? k) := by
  refine ⟨fun k a => find?_ofList_eq_some_iff, fun k => find?_ofList_eq_none_iff,
    size_ofList entries, fun hkeys => ⟨?_, ?_, ?_⟩⟩
  · rintro ⟨k, a⟩ hmem
    exact find?_ofList_eq_some_iff.mpr ((isLast_iff_mem hkeys).mpr hmem)
  · rw [size_ofList, hkeys.dedup, List.length_map]
  · intro entries' hperm k
    exact find?_ofList_perm hkeys hperm k

/-- Three spellings are found whichever of them comes first. -/
theorem ofList_answers_last_entry_rotated :
    let entries := [("loc", 0), ("mov", 1), ("mut", 2)]
    let rotated := [("mov", 1), ("mut", 2), ("loc", 0)]
    (entries.map Prod.fst).Nodup ∧ rotated.Perm entries ∧
      ∀ q, (ofList rotated).find? q = (ofList entries).find? q := by
  intro entries rotated
  have hkeys : (entries.map Prod.fst).Nodup := by decide
  have hperm : rotated.Perm entries := by decide
  obtain ⟨-, -, -, hdistinct⟩ := ofList_answers_last_entry entries
  obtain ⟨-, -, horder⟩ := hdistinct hkeys
  exact ⟨hkeys, hperm, horder rotated hperm⟩

/-- A spelling that is entered twice is found in its last entry, and counted once. -/
example :
    (ofList [("mov", 1), ("mut", 2), ("mov", 3)]).find? "mov" = some 3 ∧
      (ofList [("mov", 1), ("mut", 2), ("mov", 3)]).size = 2 := by
  decide

end Assoc

end Lexicon
