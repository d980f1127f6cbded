import ZigAdvisor.Text.Lines
import ZigAdvisor.Text.Quoted
import ZigAdvisor.Text.Utf8

/-!
# File trees

A tree of directories and files, given by the paths that exist. A path is followed name by name, so
a file in its middle is a fault of its own.
-/

namespace ZigAdvisor

abbrev Path := List Text

namespace Path

def text (p : Path) : Text := .join "/" p

def below (p : Path) (names : List String) : Path := p ++ names.map .ofString

end Path

inductive Node
  | directory
  | file (content : Bytes)
deriving DecidableEq

structure FileTree where
  entries : List (Path × Node)

inductive FileFault
  | notFound
  | alreadyExists
  | notADirectory
  | isADirectory
  | nameTooLong
deriving DecidableEq

namespace FileFault

def description : FileFault → String
  | notFound => "[Errno 2] No such file or directory"
  | alreadyExists => "[Errno 17] File exists"
  | notADirectory => "[Errno 20] Not a directory"
  | isADirectory => "[Errno 21] Is a directory"
  | nameTooLong => "[Errno 36] File name too long"

def message (fault : FileFault) (path : Text) : Text :=
  .concat [fault.description, ": ", path.quoted]

end FileFault

namespace FileTree

def node? (tree : FileTree) (path : Path) : Option Node :=
  if path.isEmpty then some .directory else tree.entries.lookup path

/-- The node that is reached from a place by following names; two dots lead back. -/
def follow (tree : FileTree) (place : Path) : List Text → Except FileFault Node
  | [] =>
    match tree.node? place with
    | some node => .ok node
    | none => .error .notFound
  | name :: names =>
    match tree.node? place with
    | none => .error .notFound
    | some (.file _) => .error .notADirectory
    | some .directory =>
      if 255 < (Utf8.encode name).length then .error .nameTooLong
      else if name = (".." : Text) then follow tree place.dropLast names
      else follow tree (place ++ [name]) names

/-- Where names lead to from a place, whatever stands there. -/
def destination (place : Path) : List Text → Path
  | [] => place
  | name :: names =>
    destination (if name = (".." : Text) then place.dropLast else place ++ [name]) names

/-- The paths that are looked at when names are followed from a place. -/
def visited (place : Path) : List Text → List Path
  | [] => [place]
  | name :: names =>
    place :: visited (if name = (".." : Text) then place.dropLast else place ++ [name]) names

def has (tree : FileTree) (path : Path) : Bool :=
  match tree.follow [] path with
  | .ok _ => true
  | .error _ => false

def readFrom (tree : FileTree) (place : Path) (names : List Text) : Except FileFault Bytes :=
  match tree.follow place names with
  | .ok (.file content) => .ok content
  | .ok .directory => .error .isADirectory
  | .error fault => .error fault

def addDirectory (tree : FileTree) (path : Path) : FileTree :=
  if (tree.node? path).isSome then tree else ⟨tree.entries ++ [(path, .directory)]⟩

def makeDirectory (tree : FileTree) (path : Path) : Except FileFault FileTree :=
  match tree.follow [] path with
  | .ok .directory => .ok tree
  | .ok (.file _) => .error .alreadyExists
  | .error .notFound => .ok ((visited [] path).foldl addDirectory tree)
  | .error fault => .error fault

def writeAt (tree : FileTree) (path : Path) (content : Bytes) : FileTree :=
  if (tree.node? path).isSome then
    ⟨tree.entries.map fun e => if e.1 = path then (path, .file content) else e⟩
  else ⟨tree.entries ++ [(path, .file content)]⟩

def write (tree : FileTree) (path : Path) (content : Bytes) : FileTree :=
  tree.writeAt (destination [] path) content

end FileTree

/-- A path as it is given: where it starts and the names in it, without empty names and single
dots. -/
structure GivenPath where
  /-- Nothing for a path from the working directory. -/
  root : Text
  names : List Text

namespace GivenPath

/-- The slashes that a path starts with: exactly two count as two, and more as one. -/
def rootOf (t : Text) : Text :=
  match (t.takeWhile (· = ('/' : CodePoint))).length with
  | 0 => ""
  | 2 => "//"
  | _ => "/"

def ofText (t : Text) : GivenPath where
  root := rootOf t
  names := (Text.pieces '/' t).filter fun n => !n.isEmpty && n != (".": Text)

def text (p : GivenPath) : Text :=
  if p.root.isEmpty && p.names.isEmpty then "." else p.root ++ Text.join "/" p.names

def sizeLimit : Nat := 4096

def isTooLong (p : GivenPath) : Bool := sizeLimit ≤ (Utf8.encode p.text).length

/-- Whether a code point has no bytes in a file name. The surrogates from DC80 to DCFF stand for
single bytes. -/
def lacksBytes (c : CodePoint) : Bool :=
  0xD800 ≤ c.val && c.val ≤ 0xDFFF && !(0xDC80 ≤ c.val && c.val ≤ 0xDCFF)

def start (p : GivenPath) (directory : Path) : Path :=
  if p.root.isEmpty then directory else [[]]

end GivenPath

namespace FileTree

def read (tree : FileTree) (directory : Path) (path : GivenPath) : Except FileFault Bytes :=
  if path.isTooLong then .error .nameTooLong
  else tree.readFrom (path.start directory) path.names

end FileTree

end ZigAdvisor
