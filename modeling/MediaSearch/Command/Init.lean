import MediaSearch.Command.Action
import MediaSearch.Settings.Discovery
import MediaSearch.Settings.Template

set_option autoImplicit false

namespace MediaSearch.Command

def writtenReport (path : Path) (text : String) : Option FileError → Report
  | some reason =>
    .failure ["error: failed to write " ++ path.text ++ ": " ++ reason.message]
  | none =>
    { output :=
        "Created " ++ path.text ++ "\n\nConfiguration written:\n" ++ indented text }

def writeNew (look : Look) (path : Path) (text : String) (force : Bool) : Action :=
  if look.exists? path && !force then
    .finish <| .failure
      ["error: configuration file already exists: " ++ path.text, "use --force to overwrite"]
  else .write path text (writtenReport path text)

def initAction (look : Look) (home : Option Path) (directory : Path) (inHome force : Bool) :
    Action :=
  if inHome || home.any directory.same then
    match home with
    | none => .finish (.failure ["error: could not determine home directory"])
    | some home => writeNew look home.settingsFile (Template.text true) force
  else writeNew look directory.settingsFile (Template.text false) force

end MediaSearch.Command
