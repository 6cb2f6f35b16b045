import Lexicon.Assoc
import Lexicon.FileTree.Disk

/-!
# Trees of files

A tree of directories and files as a value: a map from places to what stands there. A place is the
list of names that lead to it from the root, which is always a directory. One place is the working
directory: paths begin there unless they begin with a slash.

Paths are walked segment by segment. Every segment before the last has to lead to a directory; two
dots go up, and stay at the root.

The faults of a tree are those of its shape and of the lengths of names and paths. A tree has no
device below it that could be full or broken, so a file that could be opened **is always written**,
and written completely: a write that fails leaves the tree as it was.

## Main definitions

* `Entry`, `FileTree`: what can stand at a place, and trees.
* `FileTree.walk`, `FileTree.resolve`: the directory that a list of segments or a path leads to.
* `FileTree.makeDir`, `FileTree.writeFile`, `FileTree.isDir`: the steps of a disk on a tree.
* `FileTree.disk`: the tree as a disk.
* `FileTree.makeDirs`, `FileTree.store`: what is described over a disk, on a tree.
* `FileTree.lookup?`: what a path leads to.
-/

namespace Lexicon

/-- What stands at a place of a tree. -/
inductive Entry where
  | dir
  | file (contents : String)
  deriving DecidableEq

/-- A place in a tree: the names that lead to it from the root. -/
abbrev Place := List String

/-- A tree of directories and files. The root stands for itself and needs no entry. -/
structure FileTree where
  /-- What stands at each place other than the root. -/
  entries : Assoc Place Entry
  /-- The working directory, where relative paths begin. -/
  working : Place

namespace FileTree

/-- The tree in which there is only the root, which is the working directory as well. -/
def empty : FileTree := ⟨.empty, []⟩

/-- What stands at a place. -/
def at? (t : FileTree) (place : Place) : Option Entry :=
  if place.isEmpty then some .dir else t.entries.find? place

/-- Put an entry at a place. -/
def put (t : FileTree) (place : Place) (e : Entry) : FileTree :=
  { t with entries := t.entries.insert place e }

/-- The most bytes that a name may have. -/
def maxName : Nat := 255

/-- The most bytes that the text of a path may have. -/
def maxPath : Nat := 4095

/-- Whether a name has too many bytes. -/
def isLongName (name : String) : Bool :=
  maxName < (utf8 name).length

/-- Whether a path has too many bytes. -/
def isLongPath (p : Path) : Bool :=
  maxPath < p.byteLength

/-- Go from a directory along one segment to a directory. -/
def enter (t : FileTree) (place : Place) (segment : String) : Except Fault Place :=
  if Path.isVoid segment then .ok place
  else if segment = ".." then .ok place.dropLast
  else if isLongName segment then .error .nameTooLong
  else match t.at? (place ++ [segment]) with
    | none => .error .missing
    | some (.file _) => .error .notDirectory
    | some .dir => .ok (place ++ [segment])

/-- Go from a directory along several segments to a directory. -/
def walk (t : FileTree) : Place → List String → Except Fault Place
  | place, [] => .ok place
  | place, segment :: rest =>
    match t.enter place segment with
    | .error fault => .error fault
    | .ok place' => t.walk place' rest

/-- Where a path begins: at the root if it is absolute, and else at the working directory. -/
def start (t : FileTree) (p : Path) : Place :=
  if p.isAbsolute then [] else t.working

/-- The directory that a path leads to. -/
def resolve (t : FileTree) (p : Path) : Except Fault Place :=
  t.walk (t.start p) p.segments

/-- Whether the last segment of a path names nothing new: it means nothing or goes up. -/
def isDots (segment : String) : Bool :=
  Path.isVoid segment || segment = ".."

/-- Where a path puts something new: the place, if the directories before it are there and its
name is not too long, and `none` if its last segment names nothing. -/
def target? (t : FileTree) (p : Path) : Except Fault (Option Place) :=
  if isLongPath p then .error .nameTooLong
  else match t.walk (t.start p) p.directories with
    | .error fault => .error fault
    | .ok place => .ok (if isDots p.last then none else some (place ++ [p.last]))

/-- Whether a path leads to a directory. -/
def isDir (t : FileTree) (p : Path) : Bool :=
  !isLongPath p && (t.resolve p).isOk

/-- Make a directory at a path. -/
def makeDir (t : FileTree) (p : Path) : Option Fault × FileTree :=
  match t.target? p with
  | .error fault => (some fault, t)
  | .ok none => (some .alreadyExists, t)
  | .ok (some place) =>
    if isLongName p.last then (some .nameTooLong, t)
    else match t.at? place with
      | some _ => (some .alreadyExists, t)
      | none => (none, t.put place .dir)

/-- Write a file at a path. A path that ends in a slash is a directory's, whatever stands there. -/
def writeFile (t : FileTree) (p : Path) (contents : String) : Option Fault × FileTree :=
  match t.target? p with
  | .error fault => (some fault, t)
  | .ok none => (some .isDirectory, t)
  | .ok (some place) =>
    if p.endsInSlash then (some .isDirectory, t)
    else if isLongName p.last then (some .nameTooLong, t)
    else match t.at? place with
      | some .dir => (some .isDirectory, t)
      | _ => (none, t.put place (.file contents))

/-- What a path leads to. -/
def lookup? (t : FileTree) (p : Path) : Option Entry :=
  if t.isDir p then some .dir
  else if p.endsInSlash then none
  else match t.target? p with
    | .ok (some place) => t.at? place
    | _ => none

/-- A tree as a disk whose state is the tree. -/
def disk : Disk (StateM FileTree) where
  makeDir p := fun t => t.makeDir p
  isDir p := fun t => (t.isDir p, t)
  writeFile p contents := fun t => t.writeFile p contents

/-- Make a directory in a tree, and those above it that are missing. -/
def makeDirs (t : FileTree) (p : Path) : Option Fault × FileTree :=
  (disk.makeDirs p).run t

/-- Store a file in a tree, making the directories above it as needed. -/
def store (t : FileTree) (p : Path) (contents : String) :
    Option Disk.StoreError × FileTree :=
  (disk.store p contents).run t

end FileTree

end Lexicon
