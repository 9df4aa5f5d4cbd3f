/-!
# Files and paths

Paths are written with slashes. A path starts at the directory that is worked in or at another given
one, or, if its text begins with a slash, at the root of all directories. The parent of a path is
found in its text alone; what a path leads to is found by following it from its start, where `..`
leads from a directory to the one that holds it.
-/
namespace Synthesis

/-! ## 1. Paths -/

inductive Origin where
  /-- At the root of all directories. -/
  | root
  /-- At a directory with a path of its own, which is understood before the segments. The parents
  of that directory do not count as parents of the path. -/
  | given
  /-- At the directory that is worked in. Nothing is understood before the segments. -/
  | working
deriving DecidableEq, Inhabited

/-- A path, split at its slashes. The directory where a path starts has no segments. -/
structure Path where
  origin : Origin
  segments : List String
deriving DecidableEq, Inhabited

namespace Path

def ofString (text : String) : Path :=
  if text.isEmpty then ⟨.given, []⟩
  else
    match text.splitOn "/" with
    | "" :: segments => ⟨.root, segments⟩
    | segments => ⟨.given, segments⟩

def toString (path : Path) : String :=
  (if path.origin = .root then "/" else "") ++ "/".intercalate path.segments

/-- The path of an entry of a directory. A slash at the end of the directory's path is not
doubled. -/
def join (path : Path) (name : String) : Path :=
  match path.segments.reverse with
  | "" :: before => { path with segments := before.reverse ++ [name] }
  | _ => { path with segments := path.segments ++ [name] }

/-- Whether a segment stands for the directory that it is in. -/
def isIdle (segment : String) : Bool := segment == "" || segment == "."

/-- Whether a segment is no part of a path, given the segments before it, last first. A dot is a
part if nothing stands or is understood before it. -/
def isPassed (origin : Origin) (segment : String) (before : List String) : Bool :=
  isIdle segment && !(origin = .working && before.isEmpty && segment == ".")

/-- The segments of a path, last first, without those at its end that are no parts of it. -/
def dropPassed (origin : Origin) : List String → List String
  | [] => []
  | segment :: before =>
      if isPassed origin segment before then dropPassed origin before else segment :: before

/-- The path without its last part and what stands after it. A path without parts has no parent. -/
def parent? (path : Path) : Option Path :=
  match dropPassed path.origin path.segments.reverse with
  | [] => none
  | _ :: before => some ⟨path.origin, (dropPassed path.origin before).reverse⟩

/-- The segments of the parents of a path whose own segments are given last first, from the nearest
parent on. -/
def parentsOfReversed (origin : Origin) : List String → List (List String)
  | [] => []
  | segment :: before =>
      if isPassed origin segment before then parentsOfReversed origin before
      else (dropPassed origin before).reverse :: parentsOfReversed origin before

/-- A path, its parent, the parent of that, and so on to where the path starts. -/
def ancestors (path : Path) : List Path :=
  path :: (parentsOfReversed path.origin path.segments.reverse).map (⟨path.origin, ·⟩)

/-- The text of a path. From a given directory, the segments at its ends that lead nowhere are left
out. -/
def display (path : Path) : String :=
  if path.origin = .given then
    let trimmed := path.segments.dropWhile isIdle
    toString { path with segments := (trimmed.reverse.dropWhile isIdle).reverse }
  else path.toString

end Path

/-! ## 2. File systems -/

inductive Entry where
  | file (content : ByteArray)
  | directory

inductive PathError where
  /-- A name on the way does not exist. -/
  | missing
  | notDirectory
  /-- A name, or the path, is too long. -/
  | tooLong
  /-- A name has a NUL character in it. -/
  | nulCharacter
deriving DecidableEq

inductive ReadError where
  /-- The path leads nowhere. -/
  | path (error : PathError)
  /-- The file is there and may not be read. -/
  | denied
  | isDirectory
  /-- The content of the file is not UTF-8. -/
  | notText
deriving DecidableEq

def ReadError.message : ReadError → String
  | .path .missing => "No such file or directory (os error 2)"
  | .path .notDirectory => "Not a directory (os error 20)"
  | .path .tooLong => "File name too long (os error 36)"
  | .path .nulCharacter => "file name contained an unexpected NUL byte"
  | .denied => "Permission denied (os error 13)"
  | .isDirectory => "Is a directory (os error 21)"
  | .notText => "stream did not contain valid UTF-8"

/-- What every path leads to. -/
structure FileSystem where
  lookup : Path → Except PathError Entry
  /-- Whether what is at a path may not be read. -/
  isLocked : Path → Bool := fun _ => false

namespace FileSystem

def isPresent (files : FileSystem) (path : Path) : Bool :=
  match files.lookup path with
  | .ok _ => true
  | .error _ => false

def readText (files : FileSystem) (path : Path) : Except ReadError String :=
  match files.lookup path with
  | .error error => .error (.path error)
  | .ok entry =>
      if files.isLocked path then .error .denied
      else
        match entry with
        | .directory => .error .isDirectory
        | .file content =>
            match String.fromUTF8? content with
            | some text => .ok text
            | none => .error .notText

end FileSystem

/-! ## 3. Directory trees -/

/-- A file, or a directory with its entries. -/
inductive Tree where
  | file (content : ByteArray)
  | directory (entries : List (String × Tree))
deriving Inhabited

namespace Tree

def entries : Tree → List (String × Tree)
  | .file _ => []
  | .directory entries => entries

/-- The tree with an entry at the place to which names lead; missing directories on the way are
made. A directory that exists already keeps its entries. -/
def graft (leaf : Entry) : List String → Tree → Tree
  | [], tree =>
      match leaf with
      | .file content => .file content
      | .directory => .directory tree.entries
  | name :: names, tree =>
      let inside := graft leaf names ((tree.entries.lookup name).getD (.directory []))
      .directory ((name, inside) :: tree.entries.filter (·.1 != name))

/-- The place one segment further than a place, which is given by the names that lead to it from
the root, last first. There is no place above the root. -/
def further? (place : List String) (segment : String) : Option (List String) :=
  if Path.isIdle segment then some place
  else if segment == ".." then
    match place with
    | [] => none
    | _ :: outer => some outer
  else some (segment :: place)

/-- The tree with an entry put where segments lead from a place. Every place that is passed becomes
a directory, also one that the segments leave again. -/
def putFrom (leaf : Entry) (place : List String) : List String → Tree → Tree
  | [], tree => tree.graft leaf place.reverse
  | segment :: segments, tree =>
      match further? place segment with
      | some next => putFrom leaf next segments (tree.graft .directory place.reverse)
      | none => tree

/-- The tree with an entry put at a path. A path from the root of all directories leads out of the
tree, which stays as it is. -/
def put (leaf : Entry) (path : Path) (tree : Tree) : Tree :=
  if path.origin = .root then tree else tree.putFrom leaf [] path.segments

def nameLimit : Nat := 255

def pathLimit : Nat := 4095

/-- Follows segments from a tree. `above` are the directories around it, the nearest first; above
the root there is nothing else to find. -/
def follow (above : List Tree) (tree : Tree) : List String → Except PathError Entry
  | [] =>
      match tree with
      | .file content => .ok (.file content)
      | .directory _ => .ok .directory
  | segment :: segments =>
      match tree with
      | .file _ => .error .notDirectory
      | .directory entries =>
          if Path.isIdle segment then follow above tree segments
          else if segment == ".." then
            match above with
            | [] => follow [] (.directory []) segments
            | outer :: above => follow above outer segments
          else if nameLimit < segment.utf8ByteSize then .error .tooLong
          else
            match entries.lookup segment with
            | none => .error .missing
            | some inner => follow (tree :: above) inner segments

/-- What paths lead to from the root of a tree. In the root of all directories there is nothing to
find. -/
def fileSystem (tree : Tree) : FileSystem where
  lookup path :=
    let text := path.toString
    if text.contains '\x00' then .error .nulCharacter
    else if pathLimit ≤ text.utf8ByteSize then .error .tooLong
    else follow [] (if path.origin = .root then .directory [] else tree) path.segments

end Tree
end Synthesis
