import MediaSearch.Path
import MediaSearch.Settings.File
import MediaSearch.Sql.Scope
import MediaSearch.Toml.Writer

set_option autoImplicit false

namespace MediaSearch

structure CompileSettings where
  username : String := "admin"
  scope : String := Sql.Scope.all.name
  order : String := ""
  table : String := "media_file"
  columns : String := "media_file.*"
  deriving DecidableEq, Repr

structure OutputSettings where
  json : Bool := false
  deriving DecidableEq, Repr

structure Settings where
  compile : CompileSettings := {}
  output : OutputSettings := {}
  directory : Option Path := none
  sources : List Path := []
  deriving DecidableEq, Repr

def CompileSettings.overriddenBy (settings : CompileSettings) (file : CompileSection) :
    CompileSettings :=
  { username := file.username.getD settings.username
    scope := file.scope.getD settings.scope
    order := file.order.getD settings.order
    table := file.table.getD settings.table
    columns := file.columns.getD settings.columns }

def OutputSettings.overriddenBy (settings : OutputSettings) (file : OutputSection) :
    OutputSettings :=
  { json := file.json.getD settings.json }

namespace Settings

def addSource (path : Path) (file : SettingsFile) (settings : Settings) : Settings :=
  { compile :=
      match file.compile with
      | some given => settings.compile.overriddenBy given
      | none => settings.compile
    output :=
      match file.output with
      | some given => settings.output.overriddenBy given
      | none => settings.output
    directory := path.parent?
    sources := path :: settings.sources }

/-- The settings that some files make, the closest of which comes first. -/
def merge : List (Path × SettingsFile) → Settings
  | [] => {}
  | (path, file) :: further => addSource path file (merge further)

/-- The scope in force; a name that no scope has restricts nothing. -/
def scope (settings : Settings) : Sql.Scope :=
  (Sql.Scope.ofName? settings.compile.scope).getD .all

def textLine (name value : String) : String := name ++ " = " ++ Toml.writeText value ++ "\n"

def toToml (settings : Settings) : String :=
  "[compile]\n" ++
    textLine "username" settings.compile.username ++
    textLine "scope" settings.compile.scope ++
    textLine "order" settings.compile.order ++
    textLine "table" settings.compile.table ++
    textLine "columns" settings.compile.columns ++
    "\n[output]\n" ++
    "json = " ++ (if settings.output.json then "true" else "false") ++ "\n"

end Settings

end MediaSearch
