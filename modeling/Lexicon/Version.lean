/-!
# Versions and stability

Every reserved spelling carries the version of the language since which it is available, and
whether the language already gives it a meaning.

## Main definitions

* `Version`: a major and a minor number, ordered lexicographically and shown as `0.1`.
* `Stability`: in use, or held back for later.
-/

namespace Lexicon

/-- A version of the language. -/
structure Version where
  /-- The major number. -/
  major : UInt8
  /-- The minor number. -/
  minor : UInt8
  deriving DecidableEq

namespace Version

/-- The two numbers in decimal, with a point between them. -/
def display (v : Version) : String :=
  v.major.toNat.repr ++ "." ++ v.minor.toNat.repr

/-- Versions are ordered by major number, then by minor number. -/
def order (v w : Version) : Ordering :=
  (compare v.major w.major).then (compare v.minor w.minor)

end Version

/-- Whether a reserved spelling has a meaning in the language. -/
inductive Stability where
  /-- The spelling is part of the grammar. -/
  | stable
  /-- The spelling is recognised, but held back for a later version. -/
  | reserved
  deriving DecidableEq

namespace Stability

/-- The word for a stability in tables. -/
def word : Stability → String
  | stable => "stable"
  | reserved => "reserved"

/-- The identifier of a stability. -/
def name : Stability → String
  | stable => "Stable"
  | reserved => "Reserved"

end Stability

end Lexicon
