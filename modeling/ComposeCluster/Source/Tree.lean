import ComposeCluster.Text.Split
import ComposeCluster.Text.Utf8

/-!
# Trees of source files

The disk on which a compose document finds its files below a base directory, as a value. Reading is
confined to that directory: `SourceTree.read` takes only relative paths without `..`, passes only
directories on the way, and never follows a link. The question whether a path leads to something
other than a directory (`SourceTree.leadsToFile`) is one for the whole disk: it follows links
wherever they lead, and `..` out of the base directory.
-/

set_option autoImplicit false

namespace ComposeCluster

/-- An entry of a directory. What is neither a file nor a link nor a directory (a pipe, a device, a
socket) gives some bytes to whoever reads it, or it is not to be read, with the error that the
system reports. -/
inductive SourceEntry where
  | file (content : Bytes)
  | link (target : String)
  | directory
  | special (content : Bytes)
  | unreadable (error : String)
  deriving DecidableEq

/-- Why the system does not find a file. -/
inductive FileError where
  | missing
  | notDirectory
  | nameTooLong
  | nulInName
  deriving DecidableEq

namespace FileError

def message : FileError → String
  | .missing => "No such file or directory (os error 2)"
  | .notDirectory => "Not a directory (os error 20)"
  | .nameTooLong => "File name too long (os error 36)"
  | .nulInName => "file name contained an unexpected NUL byte"

end FileError

/-- Why a path is not read. -/
inductive PathError where
  | absolute
  | upward
  | link (path : String)
  | file (error : FileError)
  | directory
  | unreadable (error : String)
  deriving DecidableEq

/-- The longest name of a file in bytes. -/
def maxFileName : Nat := 255

/-- How many links may follow on each other. -/
def maxLinks : Nat := 40

/-- The parts of a path between its slashes. -/
def pathParts (path : String) : List String :=
  Text.splitAll '/' path

/-- The names in a path: its parts less those that stay or go up. -/
def pathNames (path : String) : List String :=
  (pathParts path).filter fun part => part != "" && part != "." && part != ".."

/-- The last part of a path, whatever slashes follow it. -/
def pathBaseName (path : String) : String :=
  let trimmed := (path.toList.reverse.dropWhile (· == '/')).takeWhile (· != '/')
  String.ofList trimmed.reverse

/-- What follows the last dot in the name of a file, unless the dot is its first character. -/
def pathExtension? (path : String) : Option String :=
  match ((pathParts path).filter fun part => part != "" && part != ".").getLast? with
  | none => none
  | some name =>
    let reversed := name.toList.reverse
    if name = ".." then none
    else
      match reversed.dropWhile (· != '.') with
      | [] => none
      | [_] => none
      | _ => some (String.ofList (reversed.takeWhile (· != '.')).reverse)

/-- Whether two dots follow on each other. -/
def hasTwoDots : List Char → Bool
  | '.' :: '.' :: _ => true
  | _ :: rest => hasTwoDots rest
  | [] => false

/-- A disk and a directory on it, by the names on the way from the root. Each entry of the disk has
the names on the way to it; the directory and those above it are there without being listed. -/
structure SourceTree where
  base : List String
  entries : List (List String × SourceEntry)
  deriving DecidableEq

namespace SourceTree

/-- A directory with nothing in it, on a disk with nothing else. -/
def empty : SourceTree := ⟨["srv"], []⟩

/-- The entry at the end of a way from the root. -/
def entryAt? (tree : SourceTree) (way : List String) : Option SourceEntry :=
  if way.isPrefixOf tree.base then some .directory else tree.entries.lookup way

/-- The entry at the end of a way from the base directory. -/
def entry? (tree : SourceTree) (names : List String) : Option SourceEntry :=
  tree.entryAt? (tree.base ++ names)

/-- Ways from the base directory are ways from the root that pass it. -/
theorem entry?_eq (tree : SourceTree) (names : List String) :
    tree.entry? names = tree.entryAt? (tree.base ++ names) :=
  rfl

/-- Puts an entry in place of an earlier one. -/
def put (tree : SourceTree) (names : List String) (entry : SourceEntry) : SourceTree :=
  let way := tree.base ++ names
  { tree with entries := (way, entry) :: tree.entries.filter (·.1 != way) }

/-- Makes the directories on the way to an entry, where there is nothing yet. -/
def makeParents (tree : SourceTree) (names : List String) : SourceTree :=
  (List.range names.length).foldl (fun tree count =>
    let parent := names.take count
    if (tree.entry? parent).isSome then tree else tree.put parent .directory) tree

/-- Puts an entry, with the directories on the way to it. -/
def insert (tree : SourceTree) (path : String) (entry : SourceEntry) : SourceTree :=
  let names := pathNames path
  (tree.makeParents names).put names entry

/-- Removes an entry. -/
def remove (tree : SourceTree) (path : String) : SourceTree :=
  { tree with entries := tree.entries.filter (·.1 != tree.base ++ pathNames path) }

/-- The entry with a name in the directory at the end of a way from the root. -/
def childAt (tree : SourceTree) (way : List String) (name : String) :
    Except FileError SourceEntry :=
  if Text.containsChar '\x00' name then .error .nulInName
  else
    match tree.entryAt? way with
    | none => .error .missing
    | some .directory =>
      if maxFileName < name.utf8ByteSize then .error .nameTooLong
      else
        match tree.entryAt? (way ++ [name]) with
        | some entry => .ok entry
        | none => .error .missing
    | some _ => .error .notDirectory

/-- The entry with a name in the directory at the end of a way from the base directory. -/
def child (tree : SourceTree) (names : List String) (name : String) :
    Except FileError SourceEntry :=
  tree.childAt (tree.base ++ names) name

/-- The first link on a way, if all that precedes it is there. -/
def firstLinkFrom (tree : SourceTree) (directory : List String) :
    List String → Except FileError (Option (List String))
  | [] => .ok none
  | name :: rest =>
    match tree.child directory name with
    | .error error => .error error
    | .ok (.link _) => .ok (some (directory ++ [name]))
    | .ok _ => tree.firstLinkFrom (directory ++ [name]) rest

/-- The first link on a path. -/
def firstLink (tree : SourceTree) (path : String) : Except FileError (Option String) :=
  (tree.firstLinkFrom [] (pathNames path)).map fun found => found.map (Text.join "/")

/-- The entry that parts of a path lead to from an entry; only a directory leads on. -/
def entryFrom (tree : SourceTree) (names : List String) (entry : SourceEntry) :
    List String → Except FileError SourceEntry
  | [] => .ok entry
  | part :: rest =>
    match entry with
    | .directory =>
      if part = "" ∨ part = "." then tree.entryFrom names .directory rest
      else
        match tree.child names part with
        | .error error => .error error
        | .ok entry => tree.entryFrom (names ++ [part]) entry rest
    | _ => .error .notDirectory

/-- What a path gives to whoever reads it, or why it is not read. -/
def read (tree : SourceTree) (path : String) : Except PathError Bytes :=
  if Text.startsWith "/" path then .error .absolute
  else if hasTwoDots path.toList then .error .upward
  else
    match tree.firstLink path with
    | .error error => .error (.file error)
    | .ok (some link) => .error (.link link)
    | .ok none =>
      match tree.entryFrom [] .directory (pathParts path) with
      | .error error => .error (.file error)
      | .ok .directory => .error .directory
      | .ok (.file content) => .ok content
      | .ok (.special content) => .ok content
      | .ok (.unreadable error) => .error (.unreadable error)
      | .ok (.link _) => .error (.link path)

/-- Whether parts of a path lead from a directory to something other than a directory; `way` leads
from the root to the directory. The root has nothing above it, so `..` stays there. `onLink` answers
for what a link on the way leads to: from the root if its target begins with a slash, and otherwise
from the directory that the link is in. -/
def leadsToFileFrom (tree : SourceTree) (onLink : List String → List String → Bool)
    (way : List String) : List String → Bool
  | [] => false
  | part :: rest =>
    if part = "" ∨ part = "." then tree.leadsToFileFrom onLink way rest
    else if part = ".." then tree.leadsToFileFrom onLink way.dropLast rest
    else
      match tree.childAt way part with
      | .error _ => false
      | .ok .directory => tree.leadsToFileFrom onLink (way ++ [part]) rest
      | .ok (.file _) | .ok (.special _) | .ok (.unreadable _) => rest.isEmpty
      | .ok (.link target) =>
        onLink (if Text.startsWith "/" target then [] else way) (pathParts target ++ rest)

/-- Whether parts of a path lead to something other than a directory over so many links. -/
def leadsToFileOver (tree : SourceTree) : Nat → List String → List String → Bool
  | 0 => tree.leadsToFileFrom fun _ _ => false
  | links + 1 => tree.leadsToFileFrom (tree.leadsToFileOver links)

/-- Whether a path leads from the base directory to something other than a directory. -/
def leadsToFile (tree : SourceTree) (path : String) : Bool :=
  tree.leadsToFileOver maxLinks tree.base (pathParts path)

end SourceTree

end ComposeCluster
