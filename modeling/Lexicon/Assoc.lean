/-!
# Association lists

A finite map kept as a list of pairs with distinct keys, in the order in which the keys were first
inserted. Inserting at a key that is present replaces its value in place, so the last of several
insertions wins and the order of the keys never changes.

The vocabularies are indexed by their spellings with such a map, and the tree of files that the
command line writes into is one as well.

## Main definitions

* `Assoc κ α`: the maps from keys in `κ` to values in `α`.
* `Assoc.find?`, `Assoc.insert`, `Assoc.size`: look-up, insertion and the number of keys.
* `Assoc.ofList`: the map that holds the pairs of a list, inserted from the front.

## Main results

* `Assoc.find?_insert`: the last insertion at a key decides, and other keys are not touched.
-/

namespace Lexicon

namespace Assoc

/-- Insert into a list of pairs: replace the value at a key that is present, otherwise append. -/
def insertPair {κ α : Type} [DecidableEq κ] (k : κ) (a : α) : List (κ × α) → List (κ × α)
  | [] => [(k, a)]
  | (k', a') :: rest => if k' = k then (k, a) :: rest else (k', a') :: insertPair k a rest

/-- Insertion adds the key at most, and only if it is new. -/
theorem mem_keys_insertPair {κ α : Type} [DecidableEq κ] {k k' : κ} {a : α}
    {pairs : List (κ × α)} :
    k' ∈ (insertPair k a pairs).map Prod.fst ↔ k' = k ∨ k' ∈ pairs.map Prod.fst := by
  induction pairs with
  | nil => simp [insertPair]
  | cons p rest ih =>
    obtain ⟨k₀, a₀⟩ := p
    by_cases h : k₀ = k
    · simp only [insertPair, h, if_true, List.map_cons, List.mem_cons]
      exact ⟨fun h => h.elim Or.inl fun h => .inr (.inr h),
        fun h => h.elim Or.inl fun h => h.elim Or.inl Or.inr⟩
    · simp only [insertPair, h, if_false, List.map_cons, List.mem_cons, ih]
      exact ⟨fun h => h.elim (fun h => .inr (.inl h)) fun h => h.elim Or.inl fun h => .inr (.inr h),
        fun h => h.elim (fun h => .inr (.inl h)) fun h => h.elim Or.inl fun h => .inr (.inr h)⟩

/-- Insertion keeps keys distinct. -/
theorem nodup_keys_insertPair {κ α : Type} [DecidableEq κ] {k : κ} {a : α}
    {pairs : List (κ × α)} (h : (pairs.map Prod.fst).Nodup) :
    ((insertPair k a pairs).map Prod.fst).Nodup := by
  induction pairs with
  | nil => simp [insertPair]
  | cons p rest ih =>
    obtain ⟨k₀, a₀⟩ := p
    simp only [List.map_cons, List.nodup_cons] at h
    by_cases hk : k₀ = k
    · subst hk
      simpa [insertPair] using h
    · simp only [insertPair, hk, if_false, List.map_cons, List.nodup_cons]
      refine ⟨fun hmem => ?_, ih h.2⟩
      exact (mem_keys_insertPair.1 hmem).elim hk h.1

end Assoc

/-- A finite map from `κ` to `α`: pairs with **distinct keys**, in the order of first insertion. -/
structure Assoc (κ α : Type) where
  /-- The pairs of the map. -/
  pairs : List (κ × α)
  /-- No key occurs twice. -/
  nodup : (pairs.map Prod.fst).Nodup

namespace Assoc

variable {κ α : Type}

/-- The map without keys. -/
def empty : Assoc κ α := ⟨[], by simp⟩

/-- The number of keys. -/
def size (m : Assoc κ α) : Nat := m.pairs.length

variable [DecidableEq κ]

/-- The value at a key, if the key is present. -/
def find? (m : Assoc κ α) (k : κ) : Option α :=
  (m.pairs.find? fun p => p.1 = k).map Prod.snd

/-- Put a value at a key, in place of the value that stood there. -/
def insert (m : Assoc κ α) (k : κ) (a : α) : Assoc κ α :=
  ⟨insertPair k a m.pairs, nodup_keys_insertPair m.nodup⟩

/-- The empty map has nothing at any key. -/
@[simp] theorem find?_empty (k : κ) : (empty : Assoc κ α).find? k = none := rfl

/-- Look-up in a list of pairs after an insertion. -/
theorem find?_insertPair (k k' : κ) (a : α) (pairs : List (κ × α)) :
    ((insertPair k a pairs).find? fun p => p.1 = k').map Prod.snd =
      if k = k' then some a else (pairs.find? fun p => p.1 = k').map Prod.snd := by
  induction pairs with
  | nil =>
    by_cases h : k = k' <;> simp [insertPair, h]
  | cons p rest ih =>
    obtain ⟨k₀, a₀⟩ := p
    by_cases h₀ : k₀ = k
    · subst h₀
      by_cases h : k₀ = k' <;> simp [insertPair, h]
    · by_cases h₁ : k₀ = k'
      · subst h₁
        simp [insertPair, h₀, Ne.symm h₀]
      · simpa [insertPair, h₀, h₁] using ih

/-- The last insertion at a key decides, and other keys are not touched. -/
theorem find?_insert (m : Assoc κ α) (k k' : κ) (a : α) :
    (m.insert k a).find? k' = if k = k' then some a else m.find? k' :=
  find?_insertPair k k' a m.pairs

/-- The map that holds the pairs of a list, inserted from the front. -/
def ofList (pairs : List (κ × α)) : Assoc κ α :=
  pairs.foldl (fun m p => m.insert p.1 p.2) empty

end Assoc

end Lexicon
