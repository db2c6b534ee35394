import SchemaForge.Storage.Entries
import SchemaForge.Storage.Path

/-!
# Disks

A disk is a tree of files and directories, together with the directory that relative paths start
from. Paths are followed name by name: each name but the last must lead to a directory. A disk has
no links, and every failure has a cause of its own.

`read`, `write`, `makeDir`, `makeDirs` and `filesUnder` are the operations that a run uses; `write`
and `makeDir` change one location at most.
-/

namespace SchemaForge

/-- Why an operation on a disk failed. -/
inductive StorageFault where
  /-- A name of the path does not exist. -/
  | notFound
  /-- The path leads to a directory where a file is needed. -/
  | isDirectory
  /-- The path goes on after a file. -/
  | notDirectory
  /-- There is something at the path already. -/
  | exists
  /-- A name of the path, or the whole path, is longer than a disk allows. -/
  | nameTooLong
  /-- The path holds a character that no path can hold. -/
  | nulCharacter
  /-- The file is not a text. -/
  | notText
deriving DecidableEq, Repr

/-- The wording of a fault. -/
def StorageFault.message : StorageFault → String
  | notFound => "No such file or directory (os error 2)"
  | isDirectory => "Is a directory (os error 21)"
  | notDirectory => "Not a directory (os error 20)"
  | «exists» => "File exists (os error 17)"
  | nameTooLong => "File name too long (os error 36)"
  | nulCharacter => "file name contained an unexpected NUL byte"
  | notText => "stream did not contain valid UTF-8"

/-- Files and directories by location, and the directory where relative paths start. -/
structure Disk where
  /-- What is where. -/
  entries : List (Location × Entry)
  /-- Where relative paths start. -/
  workDir : Location
  /-- The entries make up a tree. -/
  isTree : Disk.IsTree entries workDir

/-- Where a path leads. -/
inductive Target where
  /-- To something that exists. -/
  | present (place : Location) (entry : Entry)
  /-- To a free name in a directory. -/
  | vacant (place : Location)
deriving DecidableEq

namespace Disk

/-- The longest name, in bytes. -/
def maxName : Nat := 255

/-- The longest path, in bytes. -/
def maxPath : Nat := 4095

/-- What is at a location. -/
def find? (d : Disk) (place : Location) : Option Entry := entryAt d.entries place

/-- The disk with an entry put at a location, in the place of what was there, if there is room. -/
def put (d : Disk) (place : Location) (entry : Entry) : Disk :=
  if h : HasRoom d.entries place then
    { d with entries := putEntry d.entries place entry, isTree := d.isTree.putEntry h entry }
  else d

/-- The disk with nothing but a working directory and those above it. -/
def bare (workDir : Location) : Disk :=
  ⟨directoriesTo workDir, workDir, isTree_directoriesTo workDir⟩

/-- Follows names from where a path has led so far. -/
def follow (d : Disk) : Target → List String → Except StorageFault Target
  | target, [] => .ok target
  | .vacant _, _ :: _ => .error .notFound
  | .present _ (.file _), _ :: _ => .error .notDirectory
  | .present place .directory, name :: rest =>
    if name = "" ∨ name = "." then d.follow (.present place .directory) rest
    else if name = ".." then d.follow (.present place.dropLast .directory) rest
    else if maxName < name.utf8ByteSize then .error .nameTooLong
    else
      match d.find? (place ++ [name]) with
      | some entry => d.follow (.present (place ++ [name]) entry) rest
      | none => d.follow (.vacant (place ++ [name])) rest

/-- Where a path starts. -/
def origin (d : Disk) (p : Path) : Target :=
  .present (if p.isAbsolute then [] else d.workDir) .directory

/-- Follows the given names of a path, after the checks that concern its whole text. -/
def locateNames (d : Disk) (p : Path) (names : List String) : Except StorageFault Target :=
  if p.text.toList.contains '\x00' then .error .nulCharacter
  else if p.text.isEmpty then .error .notFound
  else if maxPath < p.text.utf8ByteSize then .error .nameTooLong
  else d.follow (d.origin p) names

/-- Where a path leads. -/
def locate (d : Disk) (p : Path) : Except StorageFault Target := d.locateNames p p.names

/-- The names of a path without the empty ones at its end. -/
def trimmedNames (p : Path) : List String := (p.names.reverse.dropWhile (· == "")).reverse

/-- Where a path leads when slashes at its end are left out. -/
def locateTrimmed (d : Disk) (p : Path) : Except StorageFault Target :=
  d.locateNames p (trimmedNames p)

/-- Whether something exists at a path. -/
def hasEntry (d : Disk) (p : Path) : Bool :=
  match d.locate p with
  | .ok (.present _ _) => true
  | _ => false

/-- Whether a path leads to a directory. -/
def hasDirectory (d : Disk) (p : Path) : Bool :=
  match d.locate p with
  | .ok (.present _ .directory) => true
  | _ => false

/-- Whether a path leads to a regular file. -/
def hasFile (d : Disk) (p : Path) : Bool :=
  match d.locate p with
  | .ok (.present _ (.file _)) => true
  | _ => false

/-- The text of the file at a path. -/
def read (d : Disk) (p : Path) : Except StorageFault String :=
  match d.locate p with
  | .error fault => .error fault
  | .ok (.vacant _) => .error .notFound
  | .ok (.present _ .directory) => .error .isDirectory
  | .ok (.present _ (.file content)) =>
    match String.fromUTF8? content with
    | some text => .ok text
    | none => .error .notText

/-- The disk after a text is written to a path, in a new file or in the place of the text of an old
one. A path with a slash at its end is taken for a directory without a look at its last name. -/
def write (d : Disk) (p : Path) (text : String) : Except StorageFault Disk :=
  if p.names.getLast? = some "" then
    match d.locateNames p ((trimmedNames p).dropLast ++ [""]) with
    | .error fault => .error fault
    | .ok _ => .error .isDirectory
  else
    match d.locate p with
    | .error fault => .error fault
    | .ok (.present _ .directory) => .error .isDirectory
    | .ok (.present place (.file _)) | .ok (.vacant place) =>
      .ok (d.put place (.file text.toUTF8))

/-- The disk with a new directory at a path. -/
def makeDir (d : Disk) (p : Path) : Except StorageFault Disk :=
  match d.locateTrimmed p with
  | .error fault => .error fault
  | .ok (.present _ _) => .error .exists
  | .ok (.vacant place) => .ok (d.put place .directory)

/-- Makes the directory at the first of the given paths, each of which lies in the next one, and
those above it that are missing. The disk comes back also if that fails, since some of the
directories may have been made by then. -/
def makeChain (d : Disk) : List Path → Disk × Option StorageFault
  | [] => (d, some .notFound)
  | p :: above =>
    if p.text.isEmpty then (d, none)
    else
      match d.makeDir p with
      | .ok d' => (d', none)
      | .error .notFound =>
        match d.makeChain above with
        | (d', some fault) => (d', some fault)
        | (d', none) =>
          match d'.makeDir p with
          | .ok d'' => (d'', none)
          | .error fault => (d', if d'.hasDirectory p then none else some fault)
      | .error fault => (d, if d.hasDirectory p then none else some fault)

/-- A path and the paths of the directories above it, as far as its text names them. -/
def ancestors : Nat → Path → List Path
  | 0, p => [p]
  | fuel + 1, p =>
    match p.parent? with
    | some above => p :: ancestors fuel above
    | none => [p]

/-- Makes the directory at a path and those above it that are missing. -/
def makeDirs (d : Disk) (p : Path) : Disk × Option StorageFault :=
  d.makeChain (ancestors p.text.length p)

/-- Whether there is a regular file at a location. -/
def isFile (d : Disk) (place : Location) : Bool :=
  match d.find? place with
  | some (.file _) => true
  | _ => false

/-- Whether a walk that starts at a path comes to the file that names lead to from there. It opens
each directory by its whole path, so it misses what lies below one whose path is too long. -/
def walks (p : Path) (names : List String) : Bool :=
  (names.dropLast.foldl Path.join p).text.utf8ByteSize ≤ maxPath

/-- The files that a walk from a path comes to, each with the names that lead from the path to it.
What the walk cannot open is passed over. -/
def filesUnder (d : Disk) (p : Path) : List (Location × List String) :=
  match d.locate p with
  | .ok (.present place _) =>
    (d.entries.map (·.1)).filterMap fun inner =>
      let names := inner.drop place.length
      if place.isPrefixOf inner ∧ d.isFile inner ∧ walks p names then some (inner, names) else none
  | _ => []

/-- The entries that `before` lacks or has otherwise. -/
def changesSince (d before : Disk) : List (Location × Entry) :=
  d.entries.filter fun e => before.find? e.1 != some e.2

end Disk

end SchemaForge
