import Lexicon.Log

/-!
# Classifying a spelling

What a spelling is, taken as a whole: an entry of a vocabulary, an identifier, or neither. A
spelling of the last sort is shown byte by byte, the way a scanner would meet it. Whichever it is,
describing a spelling reports an event to the log.

## Main definitions

* `Classification`, `classify`: the three cases and which of them applies.
* `description`: the line that reports the case, with the events that go to the log.
* `describe`: the line alone.
-/

namespace Lexicon

/-- Whether a byte may begin an identifier: an ASCII letter or an underscore. -/
def isIdentifierStart (b : UInt8) : Bool :=
  (0x41 ≤ b && b ≤ 0x5a) || (0x61 ≤ b && b ≤ 0x7a) || b = 0x5f

/-- Whether a byte may continue an identifier: as at the beginning, or an ASCII digit. -/
def isIdentifierPart (b : UInt8) : Bool :=
  isIdentifierStart b || (0x30 ≤ b && b ≤ 0x39)

/-- Whether a spelling has the shape of an identifier. -/
def isIdentifier (s : String) : Bool :=
  match utf8 s with
  | [] => false
  | b :: rest => isIdentifierStart b && rest.all isIdentifierPart

/-- What a spelling is as a whole. -/
inductive Classification where
  /-- One token: an entry of a vocabulary or an identifier. -/
  | whole (kind : Kind)
  /-- No single token; the tags of its bytes, in order. -/
  | perByte (tags : List Tag)
  deriving DecidableEq

/-- Classify a spelling. The vocabularies come first, so no identifier is an entry of one. -/
def classify (s : String) : Classification :=
  match Kind.ofSpelling? s with
  | some k => .whole k
  | none =>
    if isIdentifier s then .whole (.identifier s)
    else .perByte ((utf8 s).map fun b => (Kind.ofByte b).tag)

/-- The report on a classification, after the quoted spelling. -/
def Classification.report : Classification → String
  | whole k => k.debug
  | perByte tags => "bytes [" ++ String.intercalate ", " (tags.map Tag.name) ++ "]"

/-- What describing a spelling yields. -/
structure Description where
  /-- The line that says what the spelling is. -/
  line : String
  /-- The events that were reported on the way. -/
  events : List Event
  deriving DecidableEq

/-- **Describe a spelling.** There are two ways out, and an event is reported on each of them. -/
def description (s : String) : Description :=
  let found := classify s
  let line := quote s ++ " => " ++ found.report
  match found with
  | .whole k => ⟨line, [.classified s k.tag]⟩
  | .perByte _ => ⟨line, [.classifiedPerByte s]⟩

/-- The line that says what a spelling is. -/
def describe (s : String) : String :=
  (description s).line

/-- Both ways out end in the quoted spelling and the report on it. -/
theorem describe_eq (s : String) : describe s = quote s ++ " => " ++ (classify s).report := by
  rw [describe, description]
  split <;> rfl

end Lexicon
