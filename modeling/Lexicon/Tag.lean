import Lexicon.Kind

/-!
# Tags

A tag is a kind without what it carries: one for each of the seven kinds with a payload, and one
for each symbol and each marker. Tags are what kinds are named, counted and numbered by.

## Main definitions

* `Tag`, `Tag.all`: the tags, in the order in which they are numbered.
* `Tag.name`, `Tag.ofName?`: the identifier of a tag and back.
* `Kind.tag`, `Kind.ofTag?`: from a kind to its tag, and back where the tag says it all.
-/

namespace Lexicon

/-- A kind of token without its payload. -/
inductive Tag where
  | identifier | string | character | integer | float | keyword | mode
  | symbol (symbol : Symbol)
  | marker (marker : Marker)
  deriving DecidableEq

namespace Tag

/-- The tags of the kinds that carry a payload. -/
def payload : List Tag :=
  [identifier, string, character, integer, float, keyword, mode]

/-- Every tag: the kinds with a payload, the symbols, the markers. -/
def all : List Tag :=
  payload ++ Symbol.all.map symbol ++ Marker.all.map marker

/-- The listing leaves no tag out. -/
theorem mem_all (t : Tag) : t ∈ all := by
  cases t with
  | symbol s => simp [all, Symbol.mem_all]
  | marker m => cases m <;> simp [all, Marker.all]
  | _ => simp [all, payload]

/-- The identifier of a tag. -/
def name : Tag → String
  | identifier => "Identifier"
  | string => "String"
  | character => "Character"
  | integer => "Integer"
  | float => "Float"
  | keyword => "Keyword"
  | mode => "Mode"
  | symbol s => s.name
  | marker m => m.name

/-- The number of a tag: its position among all tags. -/
def ordinal (t : Tag) : Nat :=
  all.idxOf t

/-- The tag with a given identifier, compared exactly. -/
def ofName? (name : String) : Option Tag :=
  all.find? fun t => t.name = name

/-- The text of the refusal of a name that belongs to no tag. -/
def unknownMessage : String :=
  "Matching variant not found"

end Tag

namespace Kind

/-- The tag of a kind. -/
def tag : Kind → Tag
  | identifier _ => .identifier
  | string _ => .string
  | character _ => .character
  | integer _ => .integer
  | float _ => .float
  | keyword _ => .keyword
  | mode _ => .mode
  | symbol s => .symbol s
  | marker m => .marker m

/-- The kind that a tag determines: a marker at once, and a symbol by **the first row** of the table
with that tag. No row has the tag of a kind with a payload, so such a tag determines none. -/
def ofTag? : Tag → Option Kind
  | .marker .newline => some (marker .newline)
  | .marker .illegal => some (marker .illegal)
  | .marker .eof => some (marker .eof)
  | tag => (Symbol.table.find? fun row => row.kind.tag = tag).map Symbol.Row.kind

/-- The kind that a tag determines has that tag. -/
theorem tag_of_ofTag? {t : Tag} {k : Kind} (h : ofTag? t = some k) : k.tag = t := by
  unfold ofTag? at h
  split at h
  case h_4 =>
    obtain ⟨row, hrow, rfl⟩ := Option.map_eq_some_iff.mp h
    have htag := List.find?_some hrow
    exact of_decide_eq_true htag
  all_goals
    cases h
    rfl

end Kind

end Lexicon
