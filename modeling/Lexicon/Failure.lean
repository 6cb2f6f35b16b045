import Lexicon.Text.Quoted

/-!
# Failures

A command that cannot do its work ends in a failure: a message for the user and the exit code of
the program.

## Main definitions

* `Failure`, `Failure.general`: failures, and those with the usual exit code 1.
* `Failure.payloadName`, `Failure.unknownName`: the two ways in which a name is refused.
* `Failure.display`, `Failure.debug`: the message alone, and all of the failure.
-/

namespace Lexicon

/-- The exit code of a program that did its work. -/
def successCode : Int32 := 0

/-- The exit code of a program that failed. -/
def failureCode : Int32 := 1

/-- Why a command did not do its work. -/
structure Failure where
  /-- The message for the user. -/
  message : String
  /-- The exit code of the program. -/
  exitCode : Int32
  deriving DecidableEq

namespace Failure

/-- A failure with the usual exit code. -/
def general (message : String) : Failure :=
  ⟨message, failureCode⟩

/-- The failure of a name whose kind **carries a payload**. -/
def payloadName (name : String) : Failure :=
  general ("Error: `" ++ name ++ "` carries a payload and has no fixed spelling")

/-- The failure of a name that **names no kind**. -/
def unknownName (name : String) : Failure :=
  general ("Error: unknown token kind `" ++ name ++ "`")

/-- A number in decimal, with a minus sign if it is negative. -/
def decimal (n : Int) : String :=
  if n < 0 then "-" ++ n.natAbs.repr else n.natAbs.repr

/-- What the user sees. -/
def display (f : Failure) : String :=
  f.message

/-- The failure with the names of its fields. -/
def debug (f : Failure) : String :=
  "CliError \x7b message: " ++ quote f.message ++ ", exit_code: ExitCode("
    ++ decimal f.exitCode.toInt ++ ") \x7d"

end Failure

end Lexicon
