import MediaSearch.FileTree
import MediaSearch.Settings

set_option autoImplicit false

namespace MediaSearch

def settingsFileName : String := ".advq.toml"

def Path.settingsFile (directory : Path) : Path := directory.child settingsFileName

inductive LoadError where
  | unreadable (path : Path) (reason : FileError)
  | malformed (path : Path)
  deriving DecidableEq, Repr

def LoadError.message : LoadError → String
  | .unreadable path reason => "failed to read config file " ++ path.text ++ ": " ++ reason.message
  | .malformed path => "failed to parse config file " ++ path.text ++ ": TOML parse error"

namespace Settings

def readFile (look : Look) (path : Path) : Except LoadError SettingsFile :=
  match look.read path with
  | .error reason => .error (.unreadable path reason)
  | .ok text =>
    match SettingsFile.parse? text with
    | some file => .ok file
    | none => .error (.malformed path)

/-- Whether a file says that it is the root. One that cannot be read does not. -/
def isRoot (look : Look) (path : Path) : Bool :=
  match readFile look path with
  | .ok file => file.root == some true
  | .error _ => false

def findIn (look : Look) : List Path → List Path
  | [] => []
  | directory :: directories =>
    let path := directory.settingsFile
    if look.isFile path then
      if isRoot look path then [path] else path :: findIn look directories
    else findIn look directories

def findAbove (look : Look) (directory : Path) : List Path :=
  findIn look (directory :: directory.above)

def findGlobal (look : Look) (home : Option Path) (found : List Path) : List Path :=
  match home with
  | none => []
  | some home =>
    let path := home.settingsFile
    if !found.any (isRoot look) && look.isFile path && !found.any path.same then [path] else []

def discover (look : Look) (home : Option Path) (directory : Path) : List Path :=
  let found := findAbove look directory
  found ++ findGlobal look home found

def isGlobal (home : Option Path) (path : Path) : Bool :=
  match home with
  | none => false
  | some home => path.same home.settingsFile

def readFiles (look : Look) : List Path → Except LoadError (List (Path × SettingsFile))
  | [] => .ok []
  | path :: paths =>
    match readFile look path with
    | .error error => .error error
    | .ok file =>
      match readFiles look paths with
      | .error error => .error error
      | .ok files => .ok ((path, file) :: files)

def loadFiles (look : Look) (paths : List Path) : Except LoadError Settings :=
  (readFiles look paths).map merge

def load (look : Look) (home : Option Path) (directory : Path) : Except LoadError Settings :=
  loadFiles look (discover look home directory)

end Settings

end MediaSearch
