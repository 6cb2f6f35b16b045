import Lexicon.Classify
import Lexicon.CommandLine.Help
import Lexicon.CommandLine.Parse
import Lexicon.Failure
import Lexicon.FileTree
import Lexicon.Log
import Lexicon.Reference

/-!
# The program

A command is carried out in two steps. Its **task** is what it comes to: print a text, store the
reference in a file, or fail; it depends on the command alone. Performing a task touches the disk
at most once, and yields what the user sees.

The whole program is a function of its arguments, the log level and a tree of files. Run on the
disk of a machine, it is the same function of the arguments with the effects of that disk.

## Main definitions

* `Command.task`: what a command comes to.
* `Report`: exit code, standard output, error text and events of a run.
* `perform`: perform a task on a disk.
* `runOn`: the program on a disk.
* `run`: the program on a tree of files.
-/

namespace Lexicon

/-! ### Tasks -/

/-- What a command comes to. -/
inductive Task where
  /-- Print a text, and report events. -/
  | print (text : String) (events : List Event)
  /-- Store the reference in a file. -/
  | store (path : String)
  /-- Fail. -/
  | fail (failure : Failure)
  deriving DecidableEq

/-- The output of the classification: one line per spelling. -/
def classifyText (spellings : List String) : String :=
  unlines (spellings.map describe)

/-- The spelling of the kind with a given name, escaped; a failure if there is no such kind or if
its text is not fixed. -/
def renderNamed (name : String) : Except Failure String :=
  match Tag.ofName? name with
  | none => .error (.unknownName name)
  | some tag =>
    match Kind.ofTag? tag with
    | none => .error (.payloadName name)
    | some kind => .ok (escape kind.render)

/-- What a command comes to. -/
def Command.task : Command → Task
  | vocab none => .print Reference.markdown []
  | vocab (some path) => .store path
  | classify spellings =>
    .print (classifyText spellings) (spellings.flatMap fun s => (description s).events)
  | render name =>
    match renderNamed name with
    | .ok line => .print (unlines [line]) []
    | .error failure => .fail failure

/-! ### Runs -/

/-- What a run of the program shows. -/
structure Report where
  /-- The exit code. -/
  exitCode : Int32
  /-- What was written to standard output. -/
  output : String
  /-- The message of a failure or of a fault of usage, as written to standard error. -/
  errorText : String
  /-- The events that were logged, in order. -/
  events : List Event
  deriving DecidableEq

namespace Report

/-- The report of a run that did its work. -/
def success (output : String) (events : List Event) : Report :=
  ⟨successCode, output, "", events⟩

/-- The report of a run that failed. An empty message is not written at all. -/
def failed (f : Failure) : Report :=
  ⟨f.exitCode, "", if f.message = "" then "" else f.message ++ "\n", []⟩

/-- The report of a run whose arguments led to no command. -/
def stopped (s : Stop) : Report :=
  ⟨s.exitCode, s.text, s.message, []⟩

/-- The lines of the log. -/
def logLines (r : Report) : List String :=
  r.events.flatMap fun e => splitLines e.text

end Report

variable {m : Type → Type} [Monad m]

/-- Perform a task on a disk, with a log of the given level. -/
def perform (disk : Disk m) (level : Level) : Task → m Report
  | .print text events => return .success text (visible level events)
  | .store path => do
    match ← disk.store (.ofString path) Reference.markdown with
    | none => return .success "" (visible level [.wroteReference path])
    | some e => return .failed (.general e.message)
  | .fail failure => return .failed failure

/-- The program on a disk: read the arguments, and perform what they ask for. -/
def runOn (disk : Disk m) (level : Level) (args : List String) : m Report :=
  match CommandLine.parse args with
  | .error stop => return .stopped stop
  | .ok command => perform disk level command.task

/-- The **program** on a tree of files: its report, and the tree it leaves. -/
def run (args : List String) (level : Level) (tree : FileTree) : Report × FileTree :=
  (runOn FileTree.disk level args).run tree

end Lexicon
