import Mathlib.Data.List.Nodup
import Lexicon.Symbol
import Lexicon.Keyword
import Lexicon.Mode

/-!
# Look-Up by Spelling

Each vocabulary is indexed by an association list that is filled from a listing of its entries.
Filling goes from the front and replaces what it meets, so in general the last pair at a key is
the one that look-up finds. The listings repeat no spelling, and then nothing is ever replaced:
an entry is found exactly under its own spelling.

For symbols the listing is a table whose rows carry spellings of their own, apart from what the
symbols are rendered as. The rows are gone through once, to see that the two agree and that the
table has one row for each symbol; from then on a symbol can be spoken of by its rendering alone.

## Main results

* `find?_eq_some_iff_of_nodup`: a search by distinct keys is exact.
* `Assoc.find?_ofList`: look-up in a filled map finds the last pair at the key.
* `Assoc.find?_ofList_map_eq_some_iff`: a listing indexed by distinct keys is looked up exactly.
* `Keyword.ofSpelling?_eq_some_iff`, `Mode.ofSpelling?_eq_some_iff`,
  `Symbol.ofBytes?_eq_some_iff`: the three vocabularies.
* `Symbol.spelling_eq_of_mem_table`: **a row is spelled as its symbol is rendered**.
* `Symbol.existsUnique_row`: every symbol has one row.
* `Keyword.filter_spelling`, `Mode.filter_spelling`, `Symbol.filter_spelling`: the entries of a
  listing with a given spelling are what look-up finds.
-/

namespace Lexicon

/-! ### Searching by distinct keys -/

/-- A search for a key in a listing with distinct keys finds exactly the entry that has it. -/
theorem find?_eq_some_iff_of_nodup {κ α : Type} [DecidableEq κ] {entries : List α} {key : α → κ}
    (hkey : (entries.map key).Nodup) {k : κ} {a : α} :
    (entries.find? fun a => key a = k) = some a ↔ a ∈ entries ∧ key a = k := by
  constructor
  · intro h
    have hk := List.find?_some h
    exact ⟨List.mem_of_find?_eq_some h, of_decide_eq_true hk⟩
  · rintro ⟨ha, rfl⟩
    obtain ⟨b, hb⟩ : ∃ b, (entries.find? fun b => key b = key a) = some b := by
      refine Option.isSome_iff_exists.mp (List.find?_isSome.mpr ?_)
      exact ⟨a, ha, decide_eq_true rfl⟩
    -- Whatever is found has the key of `a`, and distinct keys leave only `a` itself.
    have hmem := List.mem_of_find?_eq_some hb
    have hk := List.find?_some hb
    rw [hb, List.inj_on_of_nodup_map hkey hmem ha (of_decide_eq_true hk)]

/-! ### Maps filled from a list -/

namespace Assoc

variable {κ α : Type} [DecidableEq κ]

/-- Filling a map from a list of pairs: the last pair at a key decides, and a key without a pair
keeps the value that it had before. -/
theorem find?_foldl_insert (pairs : List (κ × α)) (m : Assoc κ α) (k : κ) :
    (pairs.foldl (fun m p => m.insert p.1 p.2) m).find? k =
      ((pairs.reverse.find? fun p => p.1 = k).map Prod.snd).or (m.find? k) := by
  induction pairs generalizing m with
  | nil => simp
  | cons p rest ih =>
      rw [List.foldl_cons, ih, find?_insert, List.reverse_cons, List.find?_append]
      cases rest.reverse.find? fun p => p.1 = k with
      | some q => simp
      | none => by_cases h : p.1 = k <;> simp [h]

/-- Look-up in a map that was filled from a list finds **the last pair** at the key. -/
theorem find?_ofList (pairs : List (κ × α)) (k : κ) :
    (ofList pairs).find? k = (pairs.reverse.find? fun p => p.1 = k).map Prod.snd := by
  rw [ofList, find?_foldl_insert, find?_empty, Option.or_none]

/-- An indexed listing is looked up by searching the listing itself from its end. -/
theorem find?_ofList_map (entries : List α) (key : α → κ) (k : κ) :
    (ofList (entries.map fun a => (key a, a))).find? k =
      entries.reverse.find? fun a => key a = k := by
  rw [find?_ofList, ← List.map_reverse, List.find?_map, Option.map_map]
  exact Option.map_id'

/-- A listing that is indexed by distinct keys is looked up exactly: each of its entries is found
at its own key, and nothing else is found. -/
theorem find?_ofList_map_eq_some_iff {entries : List α} {key : α → κ}
    (hkey : (entries.map key).Nodup) {k : κ} {a : α} :
    (ofList (entries.map fun a => (key a, a))).find? k = some a ↔ a ∈ entries ∧ key a = k := by
  have hreverse : (entries.reverse.map key).Nodup := by
    rw [List.map_reverse]
    exact List.nodup_reverse.mpr hkey
  rw [find?_ofList_map, find?_eq_some_iff_of_nodup hreverse, List.mem_reverse]

end Assoc

/-! ### The three vocabularies -/

/-- No two reserved words are spelled alike. -/
theorem Keyword.nodup_spelling : (Keyword.all.map Keyword.spelling).Nodup := by
  decide +kernel

/-- A spelling resolves to a reserved word exactly when it is the spelling of that word. -/
theorem Keyword.ofSpelling?_eq_some_iff {s : String} {k : Keyword} :
    Keyword.ofSpelling? s = some k ↔ k.spelling = s := by
  rw [Keyword.ofSpelling?, Keyword.index, Assoc.find?_ofList_map_eq_some_iff nodup_spelling]
  exact and_iff_right k.mem_all

/-- No two modes are spelled alike. -/
theorem Mode.nodup_spelling : (Mode.all.map Mode.spelling).Nodup := by
  decide +kernel

/-- A spelling resolves to a mode exactly when it is the spelling of that mode. -/
theorem Mode.ofSpelling?_eq_some_iff {s : String} {m : Mode} :
    Mode.ofSpelling? s = some m ↔ m.spelling = s := by
  rw [Mode.ofSpelling?, Mode.index, Assoc.find?_ofList_map_eq_some_iff nodup_spelling]
  exact and_iff_right m.mem_all

/-! ### The table of symbols -/

namespace Symbol

/-- **A row is spelled as its symbol is rendered.** -/
theorem spelling_eq_of_mem_table : ∀ row ∈ table, row.spelling = row.symbol.spelling := by
  decide +kernel

/-- The bytes of a row are those that its symbol is rendered as. -/
theorem bytes_eq_of_mem_table {row : Row} (h : row ∈ table) : row.bytes = row.symbol.bytes :=
  congrArg utf8 (spelling_eq_of_mem_table row h)

/-- No symbol has two rows. -/
theorem nodup_symbol : (table.map Row.symbol).Nodup := by
  decide +kernel

/-- No symbol is without a row. -/
theorem exists_mem_table (s : Symbol) : ∃ row ∈ table, row.symbol = s := by
  cases s <;> decide

/-- **Every symbol has one row.** -/
theorem existsUnique_row (s : Symbol) : ∃! row, row ∈ table ∧ row.symbol = s := by
  obtain ⟨row, hrow, rfl⟩ := s.exists_mem_table
  refine ⟨row, ⟨hrow, rfl⟩, ?_⟩
  rintro other ⟨hother, hsymbol⟩
  exact List.inj_on_of_nodup_map nodup_symbol hother hrow hsymbol

/-- What some row says of its symbol and its bytes, some symbol says of its own bytes. -/
theorem exists_row_iff {p : Symbol → List UInt8 → Prop} :
    (∃ row ∈ table, p row.symbol row.bytes) ↔ ∃ s : Symbol, p s s.bytes := by
  constructor
  · rintro ⟨row, hrow, h⟩
    exact ⟨row.symbol, bytes_eq_of_mem_table hrow ▸ h⟩
  · rintro ⟨s, h⟩
    obtain ⟨row, hrow, rfl⟩ := s.exists_mem_table
    exact ⟨row, hrow, (bytes_eq_of_mem_table hrow).symm ▸ h⟩

/-- What all rows say of their symbols and their bytes, all symbols say of their own bytes. -/
theorem forall_row_iff {p : Symbol → List UInt8 → Prop} :
    (∀ row ∈ table, p row.symbol row.bytes) ↔ ∀ s : Symbol, p s s.bytes := by
  constructor
  · intro h s
    obtain ⟨row, hrow, rfl⟩ := s.exists_mem_table
    exact bytes_eq_of_mem_table hrow ▸ h row hrow
  · intro h row hrow
    exact (bytes_eq_of_mem_table hrow).symm ▸ h row.symbol

/-- No two rows are spelled alike. -/
theorem nodup_bytes : (table.map Row.bytes).Nodup := by
  decide +kernel

/-- Bytes resolve to a row exactly when they are the bytes of its spelling. -/
theorem rowOf?_eq_some_iff {bytes : List UInt8} {row : Row} :
    rowOf? bytes = some row ↔ row ∈ table ∧ row.bytes = bytes := by
  rw [rowOf?, index, Assoc.find?_ofList_map_eq_some_iff nodup_bytes]

/-- A row is found by the bytes that its symbol is rendered as. -/
theorem rowOf?_bytes_of_mem_table {row : Row} (h : row ∈ table) :
    rowOf? row.symbol.bytes = some row :=
  rowOf?_eq_some_iff.mpr ⟨h, bytes_eq_of_mem_table h⟩

/-- Bytes resolve to a symbol exactly when it is rendered as these bytes. -/
theorem ofBytes?_eq_some_iff {bytes : List UInt8} {s : Symbol} :
    ofBytes? bytes = some s ↔ s.bytes = bytes := by
  rw [ofBytes?, Option.map_eq_some_iff]
  constructor
  · rintro ⟨row, hrow, rfl⟩
    obtain ⟨hmem, hbytes⟩ := rowOf?_eq_some_iff.mp hrow
    rw [← bytes_eq_of_mem_table hmem, hbytes]
  · rintro rfl
    obtain ⟨row, hmem, rfl⟩ := s.exists_mem_table
    exact ⟨row, rowOf?_bytes_of_mem_table hmem, rfl⟩

/-- Symbols that are rendered alike are the same. -/
@[simp] theorem bytes_inj {s t : Symbol} : s.bytes = t.bytes ↔ s = t := by
  refine ⟨fun h => ?_, fun h => h ▸ rfl⟩
  have hs : ofBytes? t.bytes = some s := ofBytes?_eq_some_iff.mpr h
  exact Option.some.inj (hs.symm.trans (ofBytes?_eq_some_iff.mpr rfl))

end Symbol

/-! ### Listings with a given spelling -/

/-- The entries of a listing that satisfy a condition are what a search finds, if the search finds
exactly the entries that do and the listing repeats none. -/
theorem filter_eq_toList {α : Type} {entries : List α} {p : α → Bool} {found : Option α}
    (hnodup : entries.Nodup) (h : ∀ a, found = some a ↔ a ∈ entries ∧ p a = true) :
    entries.filter p = found.toList := by
  cases found with
  | none =>
      refine List.filter_eq_nil_iff.mpr fun a ha hp => ?_
      exact Option.some_ne_none a ((h a).mpr ⟨ha, hp⟩).symm
  | some a =>
      refine List.perm_singleton.mp ?_
      refine (List.perm_ext_iff_of_nodup (hnodup.filter p) (List.nodup_singleton a)).mpr fun b => ?_
      rw [List.mem_filter, ← h b, Option.some.injEq, List.mem_singleton, eq_comm]

/-- The reserved words with a given spelling. -/
theorem Keyword.filter_spelling (s : String) :
    (Keyword.all.filter fun k => k.spelling = s) = (Keyword.ofSpelling? s).toList := by
  refine filter_eq_toList nodup_spelling.of_map fun k => ?_
  rw [Keyword.ofSpelling?_eq_some_iff, and_iff_right k.mem_all, decide_eq_true_iff]

/-- The modes with a given spelling. -/
theorem Mode.filter_spelling (s : String) :
    (Mode.all.filter fun m => m.spelling = s) = (Mode.ofSpelling? s).toList := by
  refine filter_eq_toList nodup_spelling.of_map fun m => ?_
  rw [Mode.ofSpelling?_eq_some_iff, and_iff_right m.mem_all, decide_eq_true_iff]

/-- The rows of the symbol table with a given spelling. -/
theorem Symbol.filter_spelling (s : String) :
    (Symbol.table.filter fun row => row.spelling = s) = (Symbol.rowOf? (utf8 s)).toList := by
  refine filter_eq_toList nodup_bytes.of_map fun row => ?_
  rw [Symbol.rowOf?_eq_some_iff, Symbol.Row.bytes, utf8_inj, decide_eq_true_iff]

end Lexicon
