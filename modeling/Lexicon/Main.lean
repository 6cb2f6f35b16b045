import Lexicon.Program

/-!
# The command line

The outer layer: the program on the disk of the machine. Arguments and the log level come from the
environment, the report goes to the standard streams, and the exit code to the caller.
-/

namespace Lexicon

/-- The fault behind an error of the operating system. -/
def faultOf : IO.Error → Fault
  | .alreadyExists _ code text | .resourceExhausted _ code text | .inappropriateType _ code text
  | .noSuchThing _ code text | .permissionDenied _ code text | .invalidArgument _ code text =>
    ⟨code.toNat, text⟩
  | .noFileOrDirectory _ code text | .interrupted _ code text => ⟨code.toNat, text⟩
  | .otherError code text | .resourceBusy code text | .resourceVanished code text
  | .hardwareFault code text | .illegalOperation code text | .protocolError code text
  | .timeExpired code text | .unsatisfiedConstraints code text | .unsupportedOperation code text =>
    ⟨code.toNat, text⟩
  | .unexpectedEof => ⟨0, "unexpected end of file"⟩
  | .userError text => ⟨0, text⟩

/-- Take a step, and answer with its fault if it fails. -/
def attempt (step : IO Unit) : IO (Option Fault) := do
  try step; return none catch e => return some (faultOf e)

/-- Whether a path of the machine leads to a directory: only there does a dot exist already. -/
def leadsToDir (p : Path) : IO Bool := do
  let fault ← attempt (IO.FS.createDir (p.text ++ "/."))
  return fault.any fun f => f.code = Fault.alreadyExists.code

/-- The disk of the machine. -/
def machineDisk : Disk IO where
  makeDir p := attempt (IO.FS.createDir p.text)
  isDir p := leadsToDir p
  writeFile p contents := attempt (IO.FS.writeFile p.text contents)

end Lexicon

open Lexicon in
/-- Run the program with the arguments of the process. -/
def main (args : List String) : IO UInt32 := do
  let chosen ← IO.getEnv "RUST_LOG"
  let level := (chosen.bind Level.ofName?).getD .info
  let report ← runOn machineDisk level args
  IO.print report.output
  for line in report.logLines do
    IO.eprintln line
  IO.eprint report.errorText
  return report.exitCode.toUInt32
