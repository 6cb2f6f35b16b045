/-!
# Text

A text is a `String`, and what a scanner reads of it is its UTF-8 bytes. `utf8` gives those bytes
as a list, character by character, so that facts about bytes follow by induction on characters.

The second part compares two texts byte by byte with an index that runs upwards. The comparison
keeps a record of every index at which it read, which is what lets us say that it never reads
outside either text.

The third part cuts a text at its newlines, and puts lines together. A text with `n` newlines has
`n + 1` pieces, the last of them empty when the text ends in a newline.

## Main definitions

* `utf8 s`: the UTF-8 bytes of `s`.
* `compareBytes a b`: the verdict of the indexed comparison, together with the indices it read.
* `sameText a b`: the verdict alone.
* `splitLines s`: the pieces of `s` between its newlines.
* `lineChars lines`, `unlines lines`: some lines, each with its newline, as characters and as a
  text.
-/

namespace Lexicon

/-! ### Bytes -/

/-- The UTF-8 bytes of a text, the encodings of its characters one after the other. -/
def utf8 (s : String) : List UInt8 :=
  s.toList.flatMap String.utf8EncodeChar

/-- No characters, no bytes. -/
@[simp] theorem utf8_empty : utf8 "" = [] := by
  simp [utf8]

/-- The bytes of a concatenation are the concatenated bytes. -/
@[simp] theorem utf8_append (s t : String) : utf8 (s ++ t) = utf8 s ++ utf8 t := by
  simp [utf8]

/-- As a byte array, the bytes are those that the text is stored as. -/
theorem toByteArray_utf8 (s : String) : (utf8 s).toByteArray = s.toByteArray := by
  rw [← String.utf8Encode_toList, utf8, List.utf8Encode]

/-- There are as many bytes as the text takes in UTF-8. -/
theorem length_utf8 (s : String) : (utf8 s).length = s.utf8ByteSize := by
  rw [← List.size_toByteArray, toByteArray_utf8, String.size_toByteArray]

/-- Texts with the same bytes are the same. -/
@[simp] theorem utf8_inj {s t : String} : utf8 s = utf8 t ↔ s = t := by
  refine ⟨fun h => ?_, fun h => h ▸ rfl⟩
  rw [← String.toByteArray_inj, ← toByteArray_utf8, ← toByteArray_utf8, h]

/-! ### Indexed comparison -/

/-- The verdict of an indexed comparison and the indices it read on the way, in order. -/
structure Comparison where
  /-- Whether the two sides were found equal. -/
  equal : Bool
  /-- Every index at which both sides were read. -/
  reads : List Nat
  deriving DecidableEq

/-- Compare `a` and `b` from index `i` up to the end of `a`, stopping at the first difference. -/
def compareFrom (a b : Array UInt8) (i : Nat) : Comparison :=
  if i < a.size then
    if a[i]? = b[i]? then
      let rest := compareFrom a b (i + 1)
      ⟨rest.equal, i :: rest.reads⟩
    else ⟨false, [i]⟩
  else ⟨true, []⟩
  termination_by a.size - i

/-- Compare two byte sequences: different lengths differ at once, with nothing read; equal lengths
are compared index by index. -/
def compareBytes (a b : Array UInt8) : Comparison :=
  if a.size = b.size then compareFrom a b 0 else ⟨false, []⟩

/-- Whether two texts have the same bytes, by the indexed comparison. -/
def sameText (a b : String) : Bool :=
  (compareBytes (utf8 a).toArray (utf8 b).toArray).equal

/-! ### Lines -/

/-- The pieces of a text between its newlines, empty pieces included. -/
def splitLines (s : String) : List String :=
  (s.toList.splitOn '\n').map String.ofList

/-- The characters of some lines, each line with its newline. -/
def lineChars (lines : List String) : List Char :=
  lines.flatMap fun line => line.toList ++ ['\n']

/-- Some lines as one text, each line with its newline. -/
def unlines (lines : List String) : String :=
  String.ofList (lineChars lines)

end Lexicon
