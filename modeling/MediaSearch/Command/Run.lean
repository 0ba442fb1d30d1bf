import MediaSearch.Command.Compile
import MediaSearch.Command.Init
import MediaSearch.Settings.Warning
import MediaSearch.Text.Table

set_option autoImplicit false

namespace MediaSearch.Command

def fieldRow (field : Sql.Field) : List String :=
  [field.name, field.valueType.label,
   match field.column? with
   | some column => column.qualified
   | none => "(computed, order only)"]

def fieldsReport (json : Bool) : Report :=
  { output :=
      if json then (Json.array (Sql.Field.all.map Sql.Field.toJson)).render ++ "\n"
      else Text.drawTable ["Field", "Type", "Column"] (Sql.Field.all.map fieldRow) }

def sourceLines (sources : List Path) : String :=
  if sources.isEmpty then "# no configuration files found, showing defaults\n"
  else String.join (sources.map fun path => "# from " ++ path.text ++ "\n")

def settingsReport (settings : Settings) : Report :=
  { output := sourceLines settings.sources ++ settings.toToml }

def foundEvent (look : Look) (path : Path) : Event :=
  { level := .trace
    message := "found config file"
    values :=
      [("path", path.text), ("is_root", if Settings.isRoot look path then "true" else "false")] }

def discoveredEvent (directory : Path) (count : Nat) : Event :=
  { level := .debug
    message := "discovered config files"
    values := [("cwd", directory.text), ("files", toString count)] }

def mergedEvent (count : Nat) : Event :=
  { level := .debug
    message := "merged configuration"
    values := [("files", toString count)] }

def warningEvent (warning : Warning) : Event := { level := .warn, message := warning.message }

def discoveryEvents (look : Look) (home : Option Path) (directory : Path) : List Event :=
  (Settings.findAbove look directory).map (foundEvent look) ++
    [discoveredEvent directory (Settings.discover look home directory).length]

def settingsEvents (settings : Settings) : List Event :=
  (if settings.sources.isEmpty then [] else [mergedEvent settings.sources.length]) ++
    settings.warnings.map warningEvent

def withSettings (look : Look) (home : Option Path) (directory : Path)
    (report : Settings → Report) : Report :=
  let rest : Report :=
    match Settings.load look home directory with
    | .error error => .failure ["error: failed to load configuration: " ++ error.message]
    | .ok settings => (report settings).after (settingsEvents settings)
  rest.after (discoveryEvents look home directory)

def perform (look : Look) (home : Option Path) (directory : Path) : Request → Action
  | .compile request => .finish (withSettings look home directory request.report)
  | .fields json => .finish (withSettings look home directory fun _ => fieldsReport json)
  | .init inHome force => initAction look home directory inHome force
  | .settings => .finish (withSettings look home directory settingsReport)

def Request.action (request : Request) (look : Look) (place : Place) : Action :=
  match place.directory with
  | .error reason =>
    .finish (.failure ["error: could not determine current directory: " ++ reason.message])
  | .ok directory => perform look place.home directory request

/-- The paths that a request may look at. -/
def Place.watched (place : Place) : List Path :=
  let directories :=
    match place.directory with
    | .ok directory => directory :: directory.above
    | .error _ => []
  (directories ++ place.home.toList).map Path.settingsFile

def Request.run (request : Request) (tree : FileTree) (place : Place) : Report × FileTree :=
  (request.action tree.look place).run tree

end MediaSearch.Command
