import MediaSearch.Toml.Document

set_option autoImplicit false

/-!
What one settings file says. Every setting may be missing; a setting of the wrong kind makes the file
malformed, and so does a number that is malformed itself or that no type can hold, even under a name
that means nothing here.
-/

namespace MediaSearch

open Toml (Item Table)

structure CompileSection where
  username : Option String := none
  scope : Option String := none
  order : Option String := none
  table : Option String := none
  columns : Option String := none
  deriving DecidableEq, Repr

structure OutputSection where
  json : Option Bool := none
  deriving DecidableEq, Repr

structure SettingsFile where
  root : Option Bool := none
  compile : Option CompileSection := none
  output : Option OutputSection := none
  deriving DecidableEq, Repr

namespace SettingsFile

def text? : Item → Option String
  | .text value => some value
  | _ => none

def boolean? : Item → Option Bool
  | .boolean value => some value
  | _ => none

def member? {α : Type} (read? : Item → Option α) (table : Table) (name : String) :
    Option (Option α) :=
  match table.get? name with
  | none => some none
  | some item => (read? item).map some

def next? {α : Type} (read? : Item → Option α) : List Item → Option (Option α × List Item)
  | [] => some (none, [])
  | item :: items => (read? item).map fun value => (some value, items)

/-- Whether the entries under other names than the given ones hold no number without a value. -/
def othersFit (known : List String) (table : Table) : Bool :=
  table.all fun entry => known.contains entry.1 || entry.2.fits

def compileOfTable? (table : Table) : Option CompileSection := do
  let username ← member? text? table "username"
  let scope ← member? text? table "scope"
  let order ← member? text? table "order"
  let tableName ← member? text? table "table"
  let columns ← member? text? table "columns"
  if othersFit ["username", "scope", "order", "table", "columns"] table then
    some { username, scope, order, table := tableName, columns }
  else none

/-- The settings by their place. Items after the last setting are not looked at. -/
def compileOfItems? (items : List Item) : Option CompileSection := do
  let (username, items) ← next? text? items
  let (scope, items) ← next? text? items
  let (order, items) ← next? text? items
  let (tableName, items) ← next? text? items
  let (columns, _) ← next? text? items
  some { username, scope, order, table := tableName, columns }

/-- A section given as a table, or as an array of its settings; a date stands for a section that says
nothing. -/
def compile? : Item → Option CompileSection
  | .table _ entries => compileOfTable? entries
  | .array items => compileOfItems? items
  | .dateTime => some {}
  | _ => none

def outputOfTable? (table : Table) : Option OutputSection := do
  let json ← member? boolean? table "json"
  if othersFit ["json"] table then some { json } else none

def outputOfItems? (items : List Item) : Option OutputSection := do
  let (json, _) ← next? boolean? items
  some { json }

def output? : Item → Option OutputSection
  | .table _ entries => outputOfTable? entries
  | .array items => outputOfItems? items
  | .dateTime => some {}
  | _ => none

def ofTable? (table : Table) : Option SettingsFile := do
  let root ← member? boolean? table "root"
  let compile ← member? compile? table "compile"
  let output ← member? output? table "output"
  if othersFit ["root", "compile", "output"] table then some { root, compile, output } else none

def parse? (text : String) : Option SettingsFile := (Toml.parse? text).bind ofTable?

end SettingsFile

end MediaSearch
