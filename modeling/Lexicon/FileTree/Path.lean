import Lexicon.Text.Basic

/-!
# Paths

A path is a text cut at its slashes: a first segment and the segments after it. An empty segment,
from a repeated or a final slash, and a dot mean nothing after the first segment; in first place
a dot is the working directory, and an empty segment is the root.

The parent of a path drops its last meaningful segment, and then what has lost its meaning at the
end. It is again a leading part of the text of the path.

## Main definitions

* `Path`, `Path.ofString`, `Path.text`: paths and their texts.
* `Path.parent?`: the path of the containing directory, if the path has more than one segment.
* `Path.directories`, `Path.last`: the segments before the last one, and the last one.
-/

namespace Lexicon

/-- A path, cut at its slashes. -/
structure Path where
  /-- What stands before the first slash. -/
  head : String
  /-- What stands after each slash. -/
  tail : List String
  deriving DecidableEq

namespace Path

/-- Cut a text at its slashes. -/
def ofString (s : String) : Path :=
  match (s.toList.splitOn '/').map String.ofList with
  | [] => ⟨"", []⟩
  | head :: tail => ⟨head, tail⟩

/-- All segments of a path. -/
def segments (p : Path) : List String :=
  p.head :: p.tail

/-- The text of a path. -/
def text (p : Path) : String :=
  String.intercalate "/" p.segments

/-- Whether a path begins at the root. -/
def isAbsolute (p : Path) : Bool :=
  p.head = ""

/-- Whether a segment after the first means nothing: it is empty or a dot. -/
def isVoid (segment : String) : Bool :=
  segment = "" || segment = "."

/-- Drop the segments at the end that mean nothing. -/
def trim (p : Path) : Path :=
  { p with tail := (p.tail.reverse.dropWhile isVoid).reverse }

/-- Trimming never lengthens a path. -/
theorem length_tail_trim_le (p : Path) : p.trim.tail.length ≤ p.tail.length := by
  have h := (List.dropWhile_sublist isVoid (l := p.tail.reverse)).length_le
  simpa [trim] using h

/-- The path of the containing directory. A path of one meaningful segment has none. -/
def parent? (p : Path) : Option Path :=
  if p.trim.tail.isEmpty then none
  else some (trim { p with tail := p.trim.tail.dropLast })

/-- A parent has fewer segments. -/
theorem length_tail_parent?_lt {p q : Path} (h : p.parent? = some q) :
    q.tail.length < p.tail.length := by
  unfold parent? at h
  split at h
  · cases h
  · rename_i hne
    cases h
    have h₁ := length_tail_trim_le { p with tail := p.trim.tail.dropLast }
    have h₂ := length_tail_trim_le p
    have h₃ : 0 < p.trim.tail.length := by
      rw [List.isEmpty_iff] at hne
      exact List.length_pos_iff.2 hne
    simp only [List.length_dropLast] at h₁
    omega

/-- Whether a path ends in a slash. -/
def endsInSlash (p : Path) : Bool :=
  p.tail.getLast? = some ""

/-- The segments of a path less the empty ones at its end. -/
def core (p : Path) : List String :=
  p.head :: (p.tail.reverse.dropWhile (· = "")).reverse

/-- The segments before the last one. -/
def directories (p : Path) : List String :=
  p.core.dropLast

/-- The last segment. -/
def last (p : Path) : String :=
  p.core.getLast (by simp [core])

/-- The number of bytes in the text of a path. -/
def byteLength (p : Path) : Nat :=
  (utf8 p.text).length

end Path

end Lexicon
