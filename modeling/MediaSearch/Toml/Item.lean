import MediaSearch.Toml.DateTime

set_option autoImplicit false

/-!
The items of a TOML document, and the rules by which statements build tables: every key is defined
once, and every table is opened by one header, by dotted keys, or in one pair of braces.
-/

namespace MediaSearch.Toml

inductive Origin where
  | header
  -- By the header of a table inside it.
  | implied
  | dotted
  | inline
  deriving DecidableEq, Repr

inductive Item where
  | text (value : String)
  | integer (value : Int)
  -- A word in the place of an integer that writes no number.
  | malformed
  | real (value : RealNumber)
  | boolean (value : Bool)
  | dateTime
  | array (items : List Item)
  | table (origin : Origin) (entries : List (String × Item))
  | tables (elements : List (List (String × Item)))

abbrev Table := List (String × Item)

namespace Item

def ofWord? (word : List Char) : Option Item :=
  if word = "true".toList then some (.boolean true)
  else if word = "false".toList then some (.boolean false)
  else
    match integer? word with
    | some value => some (.integer value)
    | none =>
      match real? word with
      | some value => some (.real value)
      | none =>
        if isDateTime word then some .dateTime
        else if isIntegerLike word then some .malformed
        else none

mutual

def fits : Item → Bool
  | .integer value => integerFits value
  | .malformed => false
  | .real value => value.fits
  | .array items => allFit items
  | .table _ entries => entriesFit entries
  | .tables elements => elementsFit elements
  | _ => true

def allFit : List Item → Bool
  | [] => true
  | item :: items => fits item && allFit items

def entriesFit : List (String × Item) → Bool
  | [] => true
  | (_, item) :: entries => fits item && entriesFit entries

def elementsFit : List (List (String × Item)) → Bool
  | [] => true
  | entries :: elements => entriesFit entries && elementsFit elements

end

end Item

namespace Table

def get? (table : Table) (name : String) : Option Item := table.lookup name

def set (name : String) (item : Item) : Table → Table
  | [] => []
  | entry :: rest => if entry.1 = name then (name, item) :: rest else entry :: set name item rest

def add (table : Table) (name : String) (item : Item) : Table := table ++ [(name, item)]

def changeLast (change : Table → Option Table) : List Table → Option (List Table)
  | [] => none
  | [last] => (change last).map ([·])
  | first :: rest => (changeLast change rest).map (first :: ·)

/-- Defines a key, given as its dotted parts. Tables on the way must be open to dotted keys, and the
one that takes the last part must be made by dotted keys alone. -/
def define (item : Item) : List String → Table → Option Table
  | [], _ => none
  | [name], table => if (table.get? name).isSome then none else some (table.add name item)
  | name :: rest, table =>
    match table.get? name with
    | none => (define item rest []).map fun inner => table.add name (.table .dotted inner)
    | some (.table .dotted inner) =>
      (define item rest inner).map fun inner => table.set name (.table .dotted inner)
    | some (.table .implied inner) =>
      if rest.length = 1 then none
      else (define item rest inner).map fun inner => table.set name (.table .implied inner)
    | some (.tables elements) =>
      if rest.length = 1 then none
      else
        (changeLast (define item rest) elements).map fun elements =>
          table.set name (.tables elements)
    | some _ => none

/-- Applies a change to the table that a header's path leads to. The path leads through tables that
are not in braces, and through the last of the tables of an array. -/
def changeAt (change : Table → Option Table) : List String → Table → Option Table
  | [], table => change table
  | name :: rest, table =>
    match table.get? name with
    | none => (changeAt change rest []).map fun inner => table.add name (.table .implied inner)
    | some (.table .inline _) => none
    | some (.table origin inner) =>
      (changeAt change rest inner).map fun inner => table.set name (.table origin inner)
    | some (.tables elements) =>
      (changeLast (changeAt change rest) elements).map fun elements =>
        table.set name (.tables elements)
    | some _ => none

def openTable (name : String) (table : Table) : Option Table :=
  match table.get? name with
  | none => some (table.add name (.table .header []))
  | some (.table .implied inner) => some (table.set name (.table .header inner))
  | some _ => none

def openElement (name : String) (table : Table) : Option Table :=
  match table.get? name with
  | none => some (table.add name (.tables [[]]))
  | some (.tables elements) => some (table.set name (.tables (elements ++ [[]])))
  | some _ => none

end Table

end MediaSearch.Toml
