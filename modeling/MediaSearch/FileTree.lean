import MediaSearch.Path

set_option autoImplicit false

/-!
Files and directories. What a program learns about a path is a `Look`; a `FileTree` holds everything
there is, and opens paths the way an operating system does: each name on the way must be that of a
directory, and two dots lead to the directory above. There are no links.
-/

namespace MediaSearch

inductive FileError where
  | missing
  | notDirectory
  | isDirectory
  | denied
  | notText
  | refused (reason : String) (code : Nat)
  deriving DecidableEq, Repr

def systemReason (reason : String) (code : Nat) : String :=
  reason ++ " (os error " ++ toString code ++ ")"

def FileError.message : FileError → String
  | .missing => systemReason "No such file or directory" 2
  | .notDirectory => systemReason "Not a directory" 20
  | .isDirectory => systemReason "Is a directory" 21
  | .denied => systemReason "Permission denied" 13
  | .notText => "stream did not contain valid UTF-8"
  | .refused reason code => systemReason reason code

inductive Entry where
  | file (bytes : ByteArray)
  | directory
  -- A file whose bytes cannot be read.
  | locked (reason : FileError)

def Entry.isFile : Entry → Bool
  | .directory => false
  | _ => true

abbrev Look := Path → Except FileError Entry

namespace Look

def exists? (look : Look) (path : Path) : Bool := (look path).isOk

def isFile (look : Look) (path : Path) : Bool :=
  match look path with
  | .ok entry => entry.isFile
  | .error _ => false

def read (look : Look) (path : Path) : Except FileError String :=
  match look path with
  | .error reason => .error reason
  | .ok .directory => .error .isDirectory
  | .ok (.locked reason) => .error reason
  | .ok (.file bytes) =>
    match String.fromUTF8? bytes with
    | some text => .ok text
    | none => .error .notText

end Look

/-- The names that lead from the top of a tree to something in it. -/
abbrev Location := List String

structure FileTree where
  entries : List (Location × Entry)
  -- Where a path without a slash in front starts.
  working : Location := []

namespace FileTree

def empty : FileTree := { entries := [] }

def at? (tree : FileTree) : Location → Option Entry
  | [] => some .directory
  | location => tree.entries.lookup location

def set (tree : FileTree) (location : Location) (entry : Entry) : FileTree :=
  { tree with entries := tree.entries.filter (fun other => other.1 != location) ++ [(location, entry)] }

def step (tree : FileTree) (location : Location) (piece : List Char) :
    Except FileError Location :=
  match tree.at? location with
  | none => .error .missing
  | some .directory =>
    if Path.isName piece then
      if piece = ['.', '.'] then .ok location.dropLast
      else .ok (location ++ [String.ofList piece])
    else .ok location
  | some _ => .error .notDirectory

/-- Where some pieces lead to from a location. There may be nothing at the end of the way. -/
def follow (tree : FileTree) (location : Location) : List (List Char) → Except FileError Location
  | [] => .ok location
  | piece :: pieces =>
    match tree.step location piece with
    | .error reason => .error reason
    | .ok next => follow tree next pieces

def startOf (tree : FileTree) (path : Path) : Location :=
  if path.head = ['/'] then [] else tree.working

def locate (tree : FileTree) (path : Path) : Except FileError Location :=
  tree.follow (tree.startOf path) path.pieces

def look (tree : FileTree) : Look := fun path =>
  match tree.locate path with
  | .error reason => .error reason
  | .ok location =>
    match tree.at? location with
    | some entry => .ok entry
    | none => .error .missing

def write (tree : FileTree) (path : Path) (bytes : ByteArray) : Except FileError FileTree :=
  match tree.locate path with
  | .error reason => .error reason
  | .ok location =>
    match tree.at? location with
    | some .directory => .error .isDirectory
    | some (.locked reason) => .error reason
    | _ => .ok (tree.set location (.file bytes))

def makeDirectoriesFrom (tree : FileTree) (location : Location) :
    List (List Char) → Except FileError FileTree
  | [] => .ok tree
  | piece :: pieces =>
    match tree.step location piece with
    | .error reason => .error reason
    | .ok next =>
      match tree.at? next with
      | none => makeDirectoriesFrom (tree.set next .directory) next pieces
      | some .directory => makeDirectoriesFrom tree next pieces
      | some _ => .error .notDirectory

def makeDirectories (tree : FileTree) (path : Path) : Except FileError FileTree :=
  tree.makeDirectoriesFrom (tree.startOf path) path.pieces

def remove (tree : FileTree) (location : Location) : FileTree :=
  { tree with entries := tree.entries.filter fun entry => !location.isPrefixOf entry.1 }

def files (tree : FileTree) : List (Location × ByteArray) :=
  tree.entries.filterMap fun entry =>
    match entry.2 with
    | .file bytes => some (entry.1, bytes)
    | _ => none

end FileTree

end MediaSearch
