import Lexicon.Program
import Lexicon.Proofs.Lookup

/-!
# Kinds by Name

Every tag has a name of its own, so a name stands for at most one tag. If that tag carries a
payload, the name alone does not say what to render; otherwise it stands for exactly one kind. These
are the three things that can happen when a kind is rendered by its name, and `renderNamed_cases`
says which of them happens when.

## Main results

* `Tag.ofName?_eq_some_iff`: a name finds exactly the tag that has it.
* `Kind.ofTag?_eq`: the search for a row with a given tag finds the symbol of that tag.
* `Kind.ofTag?_eq_some_iff`, `Kind.ofTag?_eq_none_iff`: a tag determines a kind exactly when it
  carries no payload.
* `renderNamed_cases`: the three outcomes of rendering by name.
* `renderNamed_eq_error_iff`, `renderNamed_eq_error`: when it fails, and how.
-/

namespace Lexicon

/-- No two tags have the same name. -/
theorem Tag.nodup_name : (Tag.all.map Tag.name).Nodup := by
  decide +kernel

/-- A name finds exactly the tag that has it. -/
theorem Tag.ofName?_eq_some_iff {name : String} {tag : Tag} :
    Tag.ofName? name = some tag ↔ tag.name = name := by
  rw [Tag.ofName?, find?_eq_some_iff_of_nodup nodup_name]
  exact and_iff_right tag.mem_all

/-- Tags with the same name are the same. -/
theorem Tag.name_injective : Function.Injective Tag.name := by
  intro s t h
  have hs : Tag.ofName? t.name = some s := Tag.ofName?_eq_some_iff.mpr h
  exact Option.some.inj (hs.symm.trans (Tag.ofName?_eq_some_iff.mpr rfl))

/-- No two rows of the symbol table have the same tag. -/
theorem Symbol.nodup_tag : (Symbol.table.map fun row => row.kind.tag).Nodup := by
  have htag : (fun row : Symbol.Row => row.kind.tag) = Tag.symbol ∘ Symbol.Row.symbol := rfl
  rw [htag, ← List.map_map]
  exact nodup_symbol.map fun _ _ => Tag.symbol.inj

/-- The search for the row of a symbol by its tag finds **the row of that symbol**. -/
theorem Kind.ofTag?_symbol (s : Symbol) : Kind.ofTag? (.symbol s) = some (.symbol s) := by
  obtain ⟨row, hrow, rfl⟩ := s.exists_mem_table
  have hfind := (find?_eq_some_iff_of_nodup Symbol.nodup_tag).mpr ⟨hrow, rfl⟩
  exact congrArg (Option.map Symbol.Row.kind) hfind

/-- No row of the symbol table has the tag of a kind with a payload. -/
theorem Kind.ofTag?_of_mem_payload : ∀ tag ∈ Tag.payload, Kind.ofTag? tag = none := by
  decide

/-- What a tag determines, without the search: a symbol or a marker stands for itself, and a kind
with a payload is not determined. -/
theorem Kind.ofTag?_eq (tag : Tag) :
    Kind.ofTag? tag = match tag with
      | .symbol s => some (.symbol s)
      | .marker m => some (.marker m)
      | _ => none := by
  cases tag with
  | symbol s => exact Kind.ofTag?_symbol s
  | marker m => cases m <;> rfl
  | _ => exact Kind.ofTag?_of_mem_payload _ (by decide)

/-- The tags that determine no kind are those that carry a payload. -/
theorem Kind.ofTag?_eq_none_iff {tag : Tag} : Kind.ofTag? tag = none ↔ tag ∈ Tag.payload := by
  rw [Kind.ofTag?_eq]
  cases tag <;> simp [Tag.payload]

/-- A tag determines a kind exactly when it is the tag of that kind and carries no payload. -/
theorem Kind.ofTag?_eq_some_iff {tag : Tag} {k : Kind} :
    Kind.ofTag? tag = some k ↔ k.tag = tag ∧ tag ∉ Tag.payload := by
  constructor
  · intro h
    refine ⟨Kind.tag_of_ofTag? h, fun hpayload => ?_⟩
    rw [Kind.ofTag?_eq_none_iff.mpr hpayload] at h
    cases h
  · rintro ⟨rfl, hpayload⟩
    cases k with
    | symbol s => exact Kind.ofTag?_symbol s
    | marker m => exact Kind.ofTag?_eq _
    | _ => exact absurd (by simp [Kind.tag, Tag.payload]) hpayload

/-- **Rendering by name** has three outcomes. The name of a kind that carries no payload gives its
spelling, escaped; the name of a payload tag fails because of the payload; and any other text fails
because it names nothing. -/
theorem renderNamed_cases (name : String) :
    (∃ k : Kind, k.tag ∉ Tag.payload ∧ k.tag.name = name ∧
      renderNamed name = .ok (escape k.render)) ∨
    (∃ tag ∈ Tag.payload, tag.name = name ∧ renderNamed name = .error (.payloadName name)) ∨
    ((∀ tag : Tag, tag.name ≠ name) ∧ renderNamed name = .error (.unknownName name)) := by
  rcases htag : Tag.ofName? name with _ | tag
  · refine .inr (.inr ⟨fun tag hname => ?_, ?_⟩)
    · rw [Tag.ofName?_eq_some_iff.mpr hname] at htag
      cases htag
    · rw [renderNamed, htag]
  · have hname := Tag.ofName?_eq_some_iff.mp htag
    rcases hkind : Kind.ofTag? tag with _ | k
    · refine .inr (.inl ⟨tag, Kind.ofTag?_eq_none_iff.mp hkind, hname, ?_⟩)
      simp only [renderNamed, htag, hkind]
    · obtain ⟨rfl, hpayload⟩ := Kind.ofTag?_eq_some_iff.mp hkind
      refine .inl ⟨k, hpayload, hname, ?_⟩
      simp only [renderNamed, htag, hkind]

/-- Rendering by name fails exactly when the name is not that of **a kind without a payload**. -/
theorem renderNamed_eq_error_iff {name : String} :
    (∃ failure, renderNamed name = .error failure) ↔
      ¬ ∃ k : Kind, k.tag ∉ Tag.payload ∧ k.tag.name = name := by
  rcases renderNamed_cases name with ⟨k, hk, hname, h⟩ | ⟨tag, htag, hname, h⟩ | ⟨hnone, h⟩
  · simp only [h, reduceCtorEq, exists_false, false_iff, not_not]
    exact ⟨k, hk, hname⟩
  · refine ⟨?_, fun _ => ⟨_, h⟩⟩
    rintro - ⟨k, hk, hname'⟩
    exact hk (Tag.name_injective (hname'.trans hname.symm) ▸ htag)
  · refine ⟨?_, fun _ => ⟨_, h⟩⟩
    rintro - ⟨k, -, hname'⟩
    exact hnone k.tag hname'

/-- The failure of a name that cannot be rendered is of the usual sort, and it has a message. -/
theorem renderNamed_eq_error {name : String} {failure : Failure}
    (h : renderNamed name = .error failure) : ∃ message ≠ "", failure = .general message := by
  rcases renderNamed_cases name with ⟨k, -, -, hok⟩ | ⟨tag, -, -, herror⟩ | ⟨-, herror⟩
  · rw [hok] at h
    cases h
  · rw [herror] at h
    cases h
    exact ⟨_, by simp [← String.toList_inj], rfl⟩
  · rw [herror] at h
    cases h
    exact ⟨_, by simp [← String.toList_inj], rfl⟩

end Lexicon
