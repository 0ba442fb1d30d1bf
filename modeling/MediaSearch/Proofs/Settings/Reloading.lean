import MediaSearch.Proofs.Toml.Lines
import MediaSearch.Settings

set_option autoImplicit false

namespace MediaSearch

open Toml (Document Extends Item Key Table)

namespace Settings

theorem textLine_extends {before after : Document} {name value : String} (isName : Key.IsName name)
    (defined : before.define? [name] (.text value) = some after) :
    Extends before (textLine name value).toList after := by
  have line := Extends.textSetting isName defined
  simpa [textLine] using line

def compileEntries (compile : CompileSettings) : Table :=
  [("username", .text compile.username), ("scope", .text compile.scope), ("order", .text compile.order),
   ("table", .text compile.table), ("columns", .text compile.columns)]

def compileDocument (entries : Table) : Document := ⟨[("compile", .table .header entries)], ["compile"]⟩

def document (settings : Settings) : Document :=
  ⟨[("compile", .table .header (compileEntries settings.compile)),
    ("output", .table .header [("json", .boolean settings.output.json)])], ["output"]⟩

theorem compileLines_extend (compile : CompileSettings) :
    Extends (compileDocument [])
      (textLine "username" compile.username ++ textLine "scope" compile.scope ++
        textLine "order" compile.order ++ textLine "table" compile.table ++
        textLine "columns" compile.columns).toList (compileDocument (compileEntries compile)) := by
  have username : Extends (compileDocument []) (textLine "username" compile.username).toList
      (compileDocument ((compileEntries compile).take 1)) :=
    textLine_extends (Key.isName_of_all (by decide)) rfl
  have scope : Extends (compileDocument ((compileEntries compile).take 1))
      (textLine "scope" compile.scope).toList (compileDocument ((compileEntries compile).take 2)) :=
    textLine_extends (Key.isName_of_all (by decide)) rfl
  have order : Extends (compileDocument ((compileEntries compile).take 2))
      (textLine "order" compile.order).toList (compileDocument ((compileEntries compile).take 3)) :=
    textLine_extends (Key.isName_of_all (by decide)) rfl
  have table : Extends (compileDocument ((compileEntries compile).take 3))
      (textLine "table" compile.table).toList (compileDocument ((compileEntries compile).take 4)) :=
    textLine_extends (Key.isName_of_all (by decide)) rfl
  have columns : Extends (compileDocument ((compileEntries compile).take 4))
      (textLine "columns" compile.columns).toList (compileDocument (compileEntries compile)) :=
    textLine_extends (Key.isName_of_all (by decide)) rfl
  simp only [String.toList_append]
  exact (((username.append scope).append order).append table).append columns

theorem jsonLine_extends {before after : Document} {json : Bool}
    (defined : before.define? ["json"] (.boolean json) = some after) :
    Extends before ("json = " ++ (if json then "true" else "false") ++ "\n").toList after := by
  cases json with
  | false => exact Extends.wordSetting (Key.isName_of_all rfl) "false" (Key.isName_of_all rfl) rfl defined
  | true => exact Extends.wordSetting (Key.isName_of_all rfl) "true" (Key.isName_of_all rfl) rfl defined

theorem toToml_extends (settings : Settings) :
    Extends .empty settings.toToml.toList settings.document := by
  have opening : Extends .empty "[compile]\n".toList (compileDocument []) :=
    Extends.header "compile" (Key.isName_of_all (by decide)) rfl
  have closing : Extends (compileDocument (compileEntries settings.compile)) "\n[output]\n".toList
      ⟨(compileDocument (compileEntries settings.compile)).root ++ [("output", .table .header [])], ["output"]⟩ :=
    Extends.newline.append (Extends.header "output" (Key.isName_of_all (by decide)) rfl)
  have json : Extends
      ⟨(compileDocument (compileEntries settings.compile)).root ++ [("output", .table .header [])], ["output"]⟩
      ("json = " ++ (if settings.output.json then "true" else "false") ++ "\n").toList settings.document :=
    jsonLine_extends rfl
  have whole := ((opening.append (compileLines_extend settings.compile)).append closing).append json
  delta toToml
  simpa using whole

theorem parse?_toToml (settings : Settings) :
    SettingsFile.parse? settings.toToml =
      some
        { compile := some
            { username := some settings.compile.username
              scope := some settings.compile.scope
              order := some settings.compile.order
              table := some settings.compile.table
              columns := some settings.compile.columns }
          output := some { json := some settings.output.json } } := by
  have noMark : settings.toToml.toList.head? ≠ some '\ufeff' := by
    delta toToml
    simp only [String.toList_append, List.append_assoc]
    exact (by decide : some '[' ≠ some '\ufeff')
  rw [SettingsFile.parse?, Toml.parse?_of_extends settings.toToml_extends noMark]
  rfl

end Settings

theorem toToml_reloads (settings : Settings) :
    ∃ file, SettingsFile.parse? settings.toToml = some file ∧
      ∀ path, Settings.merge [(path, file)] =
        { settings with directory := path.parent?, sources := [path] } :=
  ⟨_, settings.parse?_toToml, fun _ => rfl⟩

end MediaSearch
