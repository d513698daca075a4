import MachineOperator.Bytes
import MachineOperator.Dict
import MachineOperator.File.Error
import MachineOperator.File.Path

/-!
A tree of files, and what the system does on it when a path is read, written or made a directory. Paths are
followed name by name, so that a name counts only in a directory that is there.
-/
namespace MachineOperator.File

/-- The names from the root to a file or directory. -/
abbrev Location := List String

inductive Node where
  | file (data : ByteArray)
  | directory
deriving DecidableEq

structure Tree where
  nodes : Dict Location Node
  /-- Where paths that are not absolute start. -/
  workingDirectory : Location
deriving DecidableEq

namespace Tree

/-- The root is always there. -/
def node? (t : Tree) : Location → Option Node
  | [] => some .directory
  | l => t.nodes.get? l

def put (t : Tree) (l : Location) (n : Node) : Tree := { t with nodes := t.nodes.insert l n }

def longestName : Nat := 255
def longestPath : Nat := 4095

/-- Refuses paths that are none. -/
def check (p : Path) : Except Error Unit :=
  if p.text.toList.contains '\x00' then .error .noName
  else if p.text = "" then .error .notFound
  else if longestPath < p.text.utf8ByteSize then .error .nameTooLong
  else .ok ()

def expectDirectory (t : Tree) (l : Location) : Except Error Unit :=
  match t.node? l with
  | some .directory => .ok ()
  | some (.file _) => .error .notDirectory
  | none => .error .notFound

/-- The location that names lead to from another; only the last one need not be there. -/
def follow (t : Tree) : Location → List String → Except Error Location
  | here, [] => .ok here
  | here, name :: r => do
    t.expectDirectory here
    if name = "" || name = "." then t.follow here r
    else if name = ".." then t.follow here.dropLast r
    else if longestName < name.utf8ByteSize then .error .nameTooLong
    else t.follow (here ++ [name]) r

def start (t : Tree) (p : Path) : Location := if p.isAbsolute then [] else t.workingDirectory

/-- Where a path leads, and what is there. -/
def find (t : Tree) (p : Path) : Except Error (Location × Node) := do
  check p
  let l ← t.follow (t.start p) p.parts
  match t.node? l with
  | some n => return (l, n)
  | none => throw .notFound

def read (t : Tree) (p : Path) : Except Error ByteArray := do
  match ← t.find p with
  | (_, .file data) => return data
  | (_, .directory) => throw .isDirectory

def isDirectory (t : Tree) (p : Path) : Bool :=
  match t.find p with
  | .ok (_, .directory) => true
  | _ => false

/-- A path as one to a directory, its last name, and whether slashes follow that. -/
def splitLast (parts : List String) : List String × Option String × Bool :=
  match parts.reverse.dropWhile (· = "") with
  | [] => ([], none, true)
  | last :: before => (before.reverse, some last, parts.getLast? = some "")

/-- The directory that something new at a path would be in, with the name it would have there and whether slashes
follow. Without a name of its own a path leads to what is there already. -/
def findPlace (t : Tree) (p : Path) : Except Error (Location × Option String × Bool) := do
  check p
  let (before, last, slashes) := splitLast p.parts
  let l ← t.follow (t.start p) before
  t.expectDirectory l
  return (l, last.filter fun name => name ≠ "." && name ≠ "..", slashes)

/-- The location that a file written to a path gets: one that is free, or that of a file. -/
def findFile (t : Tree) (p : Path) : Except Error Location := do
  match ← t.findPlace p with
  | (l, some name, false) =>
    if longestName < name.utf8ByteSize then throw .nameTooLong
    match t.node? (l ++ [name]) with
    | some .directory => throw .isDirectory
    | _ => return l ++ [name]
  | _ => throw .isDirectory

/-- The tree with a file's bytes replaced, or with a file that is new. -/
def write (t : Tree) (p : Path) (data : ByteArray) : Except Error Tree := do
  return t.put (← t.findFile p) (.file data)

/-- The tree with a directory that is new. -/
def createDirectory (t : Tree) (p : Path) : Except Error Tree := do
  match ← t.findPlace p with
  | (l, some name, _) =>
    if longestName < name.utf8ByteSize then throw .nameTooLong
    match t.node? (l ++ [name]) with
    | some _ => throw .exists
    | none => return t.put (l ++ [name]) .directory
  | _ => throw .exists

/-- A directory that is there already is as good as one that is made. -/
def createUnlessThere (t : Tree) (p : Path) : Except Error Tree :=
  match t.createDirectory p with
  | .ok t => .ok t
  | .error e => if t.isDirectory p then .ok t else .error e

/-- Makes a directory, and the ones above it that are missing. What was made stays when a later one fails. -/
def createDirectories (t : Tree) (p : Path) : List Path → Except Error Unit × Tree
  | [] => (.ok (), t)
  | above :: r =>
    match t.createDirectory p with
    | .ok t => (.ok (), t)
    | .error .notFound =>
      match t.createDirectories above r with
      | (.error e, t) => (.error e, t)
      | (.ok (), t) =>
        match t.createUnlessThere p with
        | .ok t => (.ok (), t)
        | .error e => (.error e, t)
    | .error e => if t.isDirectory p then (.ok (), t) else (.error e, t)

/-- The directory at a path and all that are missing above it. -/
def createAll (t : Tree) (p : Path) : Except Error Unit × Tree :=
  if p.text = "" then (.ok (), t) else t.createDirectories p p.ancestors

end Tree
end MachineOperator.File
