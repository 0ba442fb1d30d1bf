set_option autoImplicit false

namespace MediaSearch.Text

def padded (width : Nat) (cell : String) : String :=
  " " ++ cell ++ String.ofList (List.replicate (width - cell.length) ' ') ++ " "

def rowLine (widths : List Nat) (cells : List String) : String :=
  "│" ++ "┆".intercalate (List.zipWith padded widths cells) ++ "│\n"

def ruleLine (left line crossing right : String) (widths : List Nat) : String :=
  left ++
    crossing.intercalate
      (widths.map fun width => String.join (List.replicate (width + 2) line)) ++
    right ++ "\n"

def widen (widths : List Nat) (cells : List String) : List Nat :=
  List.zipWith (fun width cell => max width cell.length) widths cells

def drawTable (header : List String) (rows : List (List String)) : String :=
  let widths := rows.foldl widen (header.map String.length)
  ruleLine "┌" "─" "┬" "┐" widths ++
    rowLine widths header ++
    ruleLine "╞" "═" "╪" "╡" widths ++
    String.join (rows.map (rowLine widths)) ++
    ruleLine "└" "─" "┴" "┘" widths

end MediaSearch.Text
