/-!
# Commands

What a command line asks for, and why reading one may stop before a command is known.

## Main definitions

* `Command`: the three commands with their arguments.
* `Topic`, `Topic.ofCommand?`: what help can be asked about, and the commands by name.
* `Stop`, `Stop.exitCode`: a request for help or for the version, or a fault of usage.
-/

namespace Lexicon

/-- What a command line asks for. -/
inductive Command where
  /-- Print the vocabulary reference, or write it to a file. -/
  | vocab (output : Option String)
  /-- Report what each spelling is. -/
  | classify (spellings : List String)
  /-- Print the spelling of the kind with the given name. -/
  | render (tag : String)
  deriving DecidableEq

/-- What help can be asked about: the whole program, or one of its commands. -/
inductive Topic where
  | program | vocab | classify | render | help
  deriving DecidableEq

/-- The command that a word names. -/
def Topic.ofCommand? (word : String) : Option Topic :=
  if word = "vocab" then some vocab
  else if word = "classify" then some classify
  else if word = "render" then some render
  else if word = "help" then some help
  else none

/-- Why reading a command line stops before a command is known. -/
inductive Stop where
  /-- Help was asked for. -/
  | help (topic : Topic)
  /-- The version was asked for. -/
  | version
  /-- There is no command. -/
  | noCommand
  /-- The word in place of a command names none. -/
  | unknownCommand
  /-- An option does not exist, or there is a word too many. -/
  | unknownArgument
  /-- A required word is missing. -/
  | missingArgument
  /-- An option has no value, or an empty one. -/
  | invalidValue
  /-- An option is given twice. -/
  | repeatedOption
  /-- A value is attached to an option that takes none. -/
  | unexpectedValue
  deriving DecidableEq

namespace Stop

/-- Whether reading stopped because the user asked for a text rather than for a command. -/
def isDisplay : Stop → Bool
  | help _ => true
  | version => true
  | _ => false

/-- Asking for a text succeeds; every fault of usage ends in 2. -/
def exitCode (s : Stop) : Int32 :=
  if s.isDisplay then 0 else 2

end Stop

end Lexicon
