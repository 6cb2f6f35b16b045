import Lexicon.Proofs.NamedKinds
import Lexicon.Proofs.SymbolRows

/-!
# The Classes of Kinds

Six questions can be asked of a kind: whether it is an identifier, a literal, a reserved word, a
mode, a symbol or a marker. Each is answered by a predicate of its own, but the answers fit
together: every kind belongs to exactly one of the six **classes**.

What else is known of a kind follows its class. Identifiers and literals have no fixed spelling. A
symbol is told by exclusion, as what is left of the fixed spellings without the words and the
markers. It is also what has a row in the table of symbols; the row is found by the spelling of the
symbol as well as by its tag, and there is only one. And the kinds that a tag determines are the
symbols and the markers.

None of this is true by definition. The text that a symbol is rendered as, the row of the table and
the answer to whether it is a symbol are written down in three places, and a table with the rows of
two symbols exchanged would be a table of the same shape.

## Main definitions

* `KindClass`, `KindClass.holds`: the classes, each with the predicate that asks for it.
* `Kind.classOf`: the class of a kind.

## Main results

* `KindClass.holds_eq`: a predicate holds of the kinds of its class, and of no others.
* `Kind.isSymbol_iff_exists_row`: a symbol is what has a row.
* `Kind.filter_tag_eq`: the rows with the tag of a kind are the row found by its spelling.
* `Kind.ofTag?_tag`: which kinds are determined by their tags.
* `Kind.classes_agree_with_tables`: **the predicates partition the kinds** and agree with the
  tables.
-/

namespace Lexicon

/-! ### Six classes -/

/-- What a kind of token can be. -/
inductive KindClass where
  | identifier | literal | keyword | mode | symbol | marker
  deriving DecidableEq

/-- Whether a kind is in a class, by the **predicate** that belongs to the class. -/
def KindClass.holds : KindClass → Kind → Bool
  | identifier, k => k.isIdentifier
  | literal, k => k.isLiteral
  | keyword, k => k.keyword?.isSome
  | mode, k => k.mode?.isSome
  | symbol, k => k.isSymbol
  | marker, k => k.isMarker

/-- The class of a kind. -/
def Kind.classOf : Kind → KindClass
  | identifier _ => .identifier
  | string _ | character _ | integer _ | float _ => .literal
  | keyword _ => .keyword
  | mode _ => .mode
  | symbol _ => .symbol
  | marker _ => .marker

/-- A predicate holds of the kinds of **its class**, and of no others. -/
theorem KindClass.holds_eq (c : KindClass) (k : Kind) : c.holds k = decide (k.classOf = c) := by
  cases k <;> cases c <;> rfl

namespace Kind

/-! ### Fixed spellings -/

/-- The kinds without a fixed spelling are the identifiers and the literals. -/
theorem spelling?_eq_none_iff {k : Kind} :
    k.spelling? = none ↔ k.isIdentifier = true ∨ k.isLiteral = true := by
  cases k <;> simp [spelling?, isIdentifier, isLiteral]

/-- What is left of the fixed spellings without the words and the markers are **the symbols**. -/
theorem isSymbol_iff_exists_symbol {k : Kind} : k.isSymbol = true ↔ ∃ s, k = symbol s := by
  cases k <;> simp [isSymbol_eq]

/-! ### Rows and tags -/

/-- A kind is a symbol exactly when it has a row in the table of symbols. -/
theorem isSymbol_iff_exists_row {k : Kind} :
    k.isSymbol = true ↔ ∃ row, k.symbolRow? = some row := by
  rw [isSymbol_iff_exists_symbol]
  constructor
  · rintro ⟨s, rfl⟩
    obtain ⟨row, hrow, rfl⟩ := s.exists_mem_table
    exact ⟨row, symbolRow?_eq_some_iff.mpr ⟨hrow, rfl⟩⟩
  · rintro ⟨row, hrow⟩
    exact ⟨row.symbol, (symbolRow?_eq_some_iff.mp hrow).2.symm⟩

/-- A row has the tag of a kind exactly when it is about that kind. -/
theorem tag_kind_eq_iff {row : Symbol.Row} {k : Kind} : row.kind.tag = k.tag ↔ row.kind = k := by
  cases k <;> simp [Symbol.Row.kind, tag]

/-- The rows with the tag of a kind are **the row that is found by its spelling**. -/
theorem filter_tag_eq (k : Kind) :
    (Symbol.table.filter fun row => row.kind.tag = k.tag) = k.symbolRow?.toList := by
  refine filter_eq_toList Symbol.nodup_bytes.of_map fun row => ?_
  rw [symbolRow?_eq_some_iff, decide_eq_true_iff, tag_kind_eq_iff]

/-- The kinds that are **determined by their tags** are the symbols and the markers. -/
theorem ofTag?_tag (k : Kind) :
    ofTag? k.tag = if k.isSymbol || k.isMarker then some k else none := by
  rw [ofTag?_eq]
  cases k <;> rfl

/-! ### The partition -/

/-- **The predicates partition the kinds and agree with the tables.** Every kind is in exactly one
class. It has no fixed spelling exactly when it is an identifier or a literal. What the exclusion
leaves as symbols are the symbols. A kind is a symbol exactly when it has a row in the table of
symbols, and that row is its own: it is about this kind, spelled as the kind is rendered, and the
only row with its tag. And its tag determines it if it is a symbol or a marker; the tag of any other
kind determines nothing. -/
theorem classes_agree_with_tables (k : Kind) :
    (∃! c : KindClass, c.holds k = true) ∧
    (k.spelling? = none ↔ k.isIdentifier = true ∨ k.isLiteral = true) ∧
    (k.isSymbol = true ↔ ∃ s, k = symbol s) ∧
    (k.isSymbol = true ↔ ∃ row, k.symbolRow? = some row) ∧
    (∀ row, k.symbolRow? = some row →
      row ∈ Symbol.table ∧ row.kind = k ∧ row.spelling = k.render ∧
        (Symbol.table.filter fun other => other.kind.tag = k.tag) = [row]) ∧
    (ofTag? k.tag = if k.isSymbol || k.isMarker then some k else none) := by
  refine ⟨?_, spelling?_eq_none_iff, isSymbol_iff_exists_symbol, isSymbol_iff_exists_row, ?_,
    ofTag?_tag k⟩
  · simp only [KindClass.holds_eq, decide_eq_true_eq]
    exact existsUnique_eq'
  · intro row hrow
    have hfilter := filter_tag_eq k
    rw [hrow] at hfilter
    obtain ⟨hmem, rfl⟩ := symbolRow?_eq_some_iff.mp hrow
    exact ⟨hmem, rfl, Symbol.spelling_eq_of_mem_table row hmem, hfilter⟩

end Kind

end Lexicon
