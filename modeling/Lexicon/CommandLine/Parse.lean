import Lexicon.CommandLine.Argument
import Lexicon.CommandLine.Command

/-!
# Reading a command line

The words are read from the left, and the first request for help or for the version, or the first
fault, decides. The first word names a command; the rest belongs to that command.

A value of the output option may stand in the same word or be the next word. A value that stands in
the next word is only settled when the following option or the end is reached, which is why the
reader keeps it pending: a repeated or an empty value is then reported at that place.

## Main definitions

* `Topic.refuse`: what an option means that a command does not know.
* `CommandLine.readWords`: the plain words of a command, up to a limit.
* `CommandLine.readOutput`: the output option of `vocab`.
* `CommandLine.parse`: a whole command line.
-/

namespace Lexicon

/-- The answer of a command to an option that is none of its own: help about the command, or a
fault. -/
def Topic.refuse (topic : Topic) (a : Argument) : Stop :=
  if a.isHelp then .help topic
  else match a with
    | .long name _ => if name = "help" then .unexpectedValue else .unknownArgument
    | _ => .unknownArgument

namespace CommandLine

/-- Whether `n` words fit into the room that is left; `none` is room without limit. -/
def fits (room : Option Nat) (n : Nat) : Bool :=
  match room with
  | none => true
  | some r => n ≤ r

/-- The **plain words** of a command that has no options of its own. After two dashes every word is
plain; a word for which there is no room is a fault. -/
def readWords (topic : Topic) : Option Nat → List String → Except Stop (List String)
  | _, [] => .ok []
  | room, w :: ws =>
    match Argument.ofString w with
    | .terminator => if fits room ws.length then .ok ws else .error .unknownArgument
    | .word text =>
      if fits room 1 then
        (readWords topic (room.map (· - 1)) ws).map (text :: ·)
      else .error .unknownArgument
    | a => .error (topic.refuse a)

/-- What the output option still waits for. -/
inductive Pending where
  /-- Nothing. -/
  | nothing
  /-- Its value, which is to be the next word. -/
  | value
  /-- The next option or the end, to settle the value that was found. -/
  | settling (value : String)
  deriving DecidableEq

/-- Accept a value of the output option: it must be the first one, and not empty. -/
def acceptOutput (output : Option String) (value : String) : Except Stop (Option String) :=
  if output.isSome then .error .repeatedOption
  else if value = "" then .error .invalidValue
  else .ok (some value)

/-- Settle what is pending. -/
def Pending.settle (output : Option String) : Pending → Except Stop (Option String)
  | nothing => .ok output
  | value => .error .invalidValue
  | settling v => acceptOutput output v

/-- The **output option** among the words of `vocab`, which takes no plain words. -/
def readOutput (output : Option String) (pending : Pending) :
    List String → Except Stop (Option String)
  | [] => pending.settle output
  | w :: ws =>
    match Argument.ofString w with
    | .terminator => if ws.isEmpty then pending.settle output else .error .unknownArgument
    | .word text =>
      if pending = .value then readOutput output (.settling text) ws
      else .error .unknownArgument
    | a =>
      match a.output? with
      | some none => do
        let settled ← pending.settle output
        readOutput settled .value ws
      | some (some v) => do
        let settled ← pending.settle output
        let accepted ← acceptOutput settled v
        readOutput accepted .nothing ws
      | none =>
        if a.isHelp then do
          let _ ← pending.settle output
          .error (.help .vocab)
        else .error (Topic.vocab.refuse a)

/-- What follows `help`: at most one word, which names a command. -/
def readHelp : List String → Stop
  | [] => .help .program
  | [w] =>
    match Topic.ofCommand? w with
    | some topic => .help topic
    | none => .unknownCommand
  | _ => .unknownCommand

/-- What follows two dashes in place of a command. A command may not stand there, and any other word
names none. -/
def readAfterTerminator : List String → Stop
  | [] => .noCommand
  | w :: _ => if (Topic.ofCommand? w).isSome then .unknownArgument else .unknownCommand

/-- The command that a word names, with the words that follow it. -/
def readCommand (name : String) (words : List String) : Except Stop Command :=
  if name = "vocab" then (readOutput none .nothing words).map .vocab
  else if name = "classify" then do
    match ← readWords .classify none words with
    | [] => .error .missingArgument
    | spellings => .ok (.classify spellings)
  else if name = "render" then do
    match ← readWords .render (some 1) words with
    | [] => .error .missingArgument
    | tag :: _ => .ok (.render tag)
  else if name = "help" then .error (readHelp words)
  else .error .unknownCommand

/-- Read a **command line**, given without the name of the program. -/
def parse : List String → Except Stop Command
  | [] => .error .noCommand
  | w :: ws =>
    match Argument.ofString w with
    | .terminator => .error (readAfterTerminator ws)
    | .word name => readCommand name ws
    | a =>
      .error (match a with
        | .long name (some _) =>
          if name = "help" || name = "version" then .unexpectedValue else .unknownArgument
        | a =>
          if a.isHelp then .help .program
          else if a.isVersion then .version
          else .unknownArgument)

end CommandLine

end Lexicon
