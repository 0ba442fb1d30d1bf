import MediaSearch.Log
import MediaSearch.Text.Lines

set_option autoImplicit false

namespace MediaSearch.Command

inductive Note where
  | event (event : Event)
  | line (text : String)
  deriving DecidableEq, Repr

structure Report where
  output : String := ""
  notes : List Note := []
  exitCode : Nat := 0
  deriving DecidableEq, Repr

namespace Report

def failure (lines : List String) : Report := { notes := lines.map .line, exitCode := 1 }

def after (report : Report) (events : List Event) : Report :=
  { report with notes := events.map .event ++ report.notes }

def errors (report : Report) (verbosity : Verbosity) : String :=
  String.join <| report.notes.map fun note =>
    match note with
    | .event event => if verbosity.shows event.level then event.line ++ "\n" else ""
    | .line text => text ++ "\n"

end Report

def indented (text : String) : String :=
  String.join ((Text.lines text).map fun line => "  " ++ line ++ "\n")

end MediaSearch.Command
