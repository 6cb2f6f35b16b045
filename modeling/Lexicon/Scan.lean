import Lexicon.Kind

/-!
# Scanning

The scan cuts a sequence of bytes into lexemes from the front. Where a symbol begins, the lexeme
is the longest symbol there; anywhere else it is one byte, with the kind of that byte. Every step
takes at least one byte, so the scan ends, and its lexemes lie side by side over the whole input.

## Main definitions

* `Lexeme`: a kind, how it was found, and the part of the input it covers.
* `firstLexeme`: one step of the scan.
* `scan input`: the lexemes of an input.
-/

namespace Lexicon

/-- How a lexeme was found. -/
inductive Origin where
  /-- As the longest symbol at its place. -/
  | symbol
  /-- As a single byte at which no symbol begins. -/
  | byte
  deriving DecidableEq

/-- A piece of the input with its kind. -/
structure Lexeme where
  /-- Where the piece begins. -/
  offset : Nat
  /-- How the piece was found. -/
  origin : Origin
  /-- The kind of the piece. -/
  kind : Kind
  /-- How many bytes the piece has. -/
  length : Nat
  deriving DecidableEq

/-- The lexeme at the front of the bytes `b :: rest`, which stand at `offset`. -/
def firstLexeme (offset : Nat) (b : UInt8) (rest : List UInt8) : Lexeme :=
  match Symbol.longestPrefix? (b :: rest) with
  | some (s, n) => ⟨offset, .symbol, .symbol s, n⟩
  | none => ⟨offset, .byte, .ofByte b, 1⟩

/-- The lexemes of an input whose first byte stands at `offset`. -/
def scanFrom (offset : Nat) : List UInt8 → List Lexeme
  | [] => []
  | b :: rest =>
    let lexeme := firstLexeme offset b rest
    lexeme :: scanFrom (offset + lexeme.length) (rest.drop (lexeme.length - 1))
  termination_by input => input.length
  decreasing_by simp only [List.length_cons, List.length_drop]; omega

/-- Nothing is left to scan. -/
@[simp] theorem scanFrom_nil (offset : Nat) : scanFrom offset [] = [] := by
  rw [scanFrom]

/-- One step of the scan. -/
theorem scanFrom_cons (offset : Nat) (b : UInt8) (rest : List UInt8) :
    scanFrom offset (b :: rest) =
      firstLexeme offset b rest ::
        scanFrom (offset + (firstLexeme offset b rest).length)
          (rest.drop ((firstLexeme offset b rest).length - 1)) := by
  rw [scanFrom]

/-- The **lexemes** of an input, from the front. -/
def scan (input : List UInt8) : List Lexeme :=
  scanFrom 0 input

end Lexicon
