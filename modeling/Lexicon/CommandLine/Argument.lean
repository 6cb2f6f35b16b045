/-!
# Arguments

How a single word of a command line reads: as the mark that ends the options, as an option, or as
a plain word. A lone dash and the empty word are plain words.

## Main definitions

* `Argument`, `Argument.ofString`: the shapes and which of them a word has.
* `Argument.isHelp`: the option that asks for help.
* `Argument.output?`: the option that names an output file, with the value attached to it.
-/

namespace Lexicon

/-- The shape of a word on a command line. -/
inductive Argument where
  /-- Two dashes alone: every later word is plain. -/
  | terminator
  /-- Two dashes and a name, perhaps with a value after an equals sign. -/
  | long (name : String) (value : Option String)
  /-- One dash and a letter, with whatever follows the letter in the same word. -/
  | short (letter : Char) (rest : List Char)
  /-- Any other word. -/
  | word (text : String)
  deriving DecidableEq

namespace Argument

/-- A long option from what follows its dashes: the value begins after the first equals sign. -/
def ofLong (rest : List Char) : Argument :=
  let name := String.ofList (rest.takeWhile (· ≠ '='))
  match rest.dropWhile (· ≠ '=') with
  | [] => long name none
  | _ :: value => long name (some (String.ofList value))

/-- How a word reads. -/
def ofString (s : String) : Argument :=
  match s.toList with
  | ['-', '-'] => terminator
  | '-' :: '-' :: rest => ofLong rest
  | '-' :: letter :: rest => short letter rest
  | _ => word s

/-- Whether an argument asks for help. Letters that follow `-h` in the same word do not matter. -/
def isHelp : Argument → Bool
  | short letter _ => letter = 'h'
  | long name value => name = "help" && value.isNone
  | _ => false

/-- Whether an argument asks for the version. Letters that follow `-V` do not matter either. -/
def isVersion : Argument → Bool
  | short letter _ => letter = 'V'
  | long name value => name = "version" && value.isNone
  | _ => false

/-- The value attached to the letter of a short option: what follows in the same word, less one
equals sign at its front. -/
def attached? : List Char → Option String
  | [] => none
  | '=' :: value => some (String.ofList value)
  | value => some (String.ofList value)

/-- The output option, `-o` or `--output`, with the value attached to it if there is one. -/
def output? : Argument → Option (Option String)
  | short letter rest => if letter = 'o' then some (attached? rest) else none
  | long name value => if name = "output" then some value else none
  | _ => none

end Argument

end Lexicon
