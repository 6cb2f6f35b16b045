import Lexicon.FileTree.Path

/-!
# Storing a file

Writing a file whose directories may be missing. The work is described over an abstract disk,
which can make one directory, tell whether a path is a directory, and write one file; what the
disk keeps its state in is left open. The command line runs it on the disk of the machine, and
`Lexicon.FileTree` gives a disk that is a value.

## Main definitions

* `Fault`: why a step on a disk failed.
* `Disk`: the three steps.
* `Disk.makeDirs`: make a directory and those above it that are missing.
* `Disk.store`: make the directory of a file, then write the file.
-/

namespace Lexicon

/-- Why a step on a disk failed: the number of the error and its description. -/
structure Fault where
  /-- The number of the error. -/
  code : Nat
  /-- The description of the error. -/
  description : String
  deriving DecidableEq

namespace Fault

/-- A directory on the way does not exist. -/
def missing : Fault := ⟨2, "No such file or directory"⟩

/-- What was to be made is there already. -/
def alreadyExists : Fault := ⟨17, "File exists"⟩

/-- A file stands where a directory is needed. -/
def notDirectory : Fault := ⟨20, "Not a directory"⟩

/-- A directory stands where a file is needed. -/
def isDirectory : Fault := ⟨21, "Is a directory"⟩

/-- A name or a path is too long. -/
def nameTooLong : Fault := ⟨36, "File name too long"⟩

/-- The description, with the number of the error after it. -/
def message (f : Fault) : String :=
  f.description ++ " (os error " ++ f.code.repr ++ ")"

end Fault

/-- The steps that a disk can take. A step answers with a fault if it failed. -/
structure Disk (m : Type → Type) where
  /-- Make a single directory. -/
  makeDir : Path → m (Option Fault)
  /-- Whether a path leads to a directory. -/
  isDir : Path → m Bool
  /-- Write a file, in place of what the file held before. -/
  writeFile : Path → String → m (Option Fault)

namespace Disk

variable {m : Type → Type} [Monad m]

/-- A fault does not matter if the directory is there after all. -/
def unlessDir (disk : Disk m) (p : Path) (fault : Fault) : m (Option Fault) := do
  return if ← disk.isDir p then none else some fault

/-- Make a directory, and **first those above it** if one of them is missing. A directory that is
there already is fine. -/
def makeDirs (disk : Disk m) (p : Path) : m (Option Fault) := do
  match ← disk.makeDir p with
  | none => return none
  | some fault =>
    if fault.code ≠ Fault.missing.code then disk.unlessDir p fault
    else match _h : p.parent? with
      | none => return some fault
      | some q =>
        match ← disk.makeDirs q with
        | some fault' => return some fault'
        | none =>
          match ← disk.makeDir p with
          | none => return none
          | some fault' => disk.unlessDir p fault'
  termination_by p.tail.length
  decreasing_by exact Path.length_tail_parent?_lt ‹_›

/-- Where storing a file failed. -/
inductive StoreError where
  /-- The directory of the file could not be made. -/
  | creating (directory : Path) (fault : Fault)
  /-- The file could not be written. -/
  | writing (file : Path) (fault : Fault)
  deriving DecidableEq

/-- The message for the user. -/
def StoreError.message : StoreError → String
  | creating p fault => "Error creating " ++ p.text ++ ": " ++ fault.message
  | writing p fault => "Error writing " ++ p.text ++ ": " ++ fault.message

/-- Make the directory of a file, if its path names one, and then write the file. -/
def store (disk : Disk m) (p : Path) (contents : String) : m (Option StoreError) := do
  match p.parent? with
  | none => write
  | some q =>
    match ← disk.makeDirs q with
    | some fault => return some (.creating q fault)
    | none => write
where
  /-- Write the file itself. -/
  write : m (Option StoreError) := do
    return (← disk.writeFile p contents).map (.writing p)

end Disk

end Lexicon
