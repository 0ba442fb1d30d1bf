import MediaSearch.Command.Report
import MediaSearch.FileTree

set_option autoImplicit false

namespace MediaSearch.Command

structure Place where
  directory : Except FileError Path
  home : Option Path

inductive Action where
  | finish (report : Report)
  | write (path : Path) (text : String) (report : Option FileError → Report)

def Action.run (tree : FileTree) : Action → Report × FileTree
  | .finish report => (report, tree)
  | .write path text report =>
    match tree.write path text.toUTF8 with
    | .error reason => (report (some reason), tree)
    | .ok written => (report none, written)

end MediaSearch.Command
