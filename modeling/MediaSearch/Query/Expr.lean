import MediaSearch.Query.Token

set_option autoImplicit false

namespace MediaSearch.Query

/-- A test of one field. Values and bounds are kept as written, with their quotes. -/
inductive Predicate where
  | compare (field : String) (op : Operator) (value : String)
  | between (field low high : String)
  deriving DecidableEq, Repr

namespace Predicate

def field : Predicate → String
  | .compare field _ _ => field
  | .between field _ _ => field

def render : Predicate → String
  | .compare field op value => field ++ op.symbol ++ value
  | .between field low high => field ++ ":[" ++ low ++ " TO " ++ high ++ "]"

end Predicate

inductive Expr where
  | or (operands : List Expr)
  | and (operands : List Expr)
  | not (operand : Expr)
  | bracket (inner : Expr)
  -- Tests side by side, all of which must hold.
  | tests (predicates : List Predicate)
  deriving Repr

namespace Expr

def anyOf : List Expr → Expr
  | [operand] => operand
  | operands => .or operands

def allOf : List Expr → Expr
  | [operand] => operand
  | operands => .and operands

mutual

def same : Expr → Expr → Bool
  | .or left, .or right => sameAll left right
  | .and left, .and right => sameAll left right
  | .not left, .not right => same left right
  | .bracket left, .bracket right => same left right
  | .tests left, .tests right => left == right
  | _, _ => false

def sameAll : List Expr → List Expr → Bool
  | [], [] => true
  | left :: lefts, right :: rights => same left right && sameAll lefts rights
  | _, _ => false

end

mutual

theorem same_iff : (left right : Expr) → (same left right = true ↔ left = right)
  | .or left, right => by cases right <;> simp [same, sameAll_iff left]
  | .and left, right => by cases right <;> simp [same, sameAll_iff left]
  | .not left, right => by cases right <;> simp [same, same_iff left]
  | .bracket left, right => by cases right <;> simp [same, same_iff left]
  | .tests left, right => by cases right <;> simp [same]

theorem sameAll_iff : (left right : List Expr) → (sameAll left right = true ↔ left = right)
  | [], right => by cases right <;> simp [sameAll]
  | left :: lefts, right => by
    cases right <;> simp [sameAll, same_iff left, sameAll_iff lefts]

end

instance : DecidableEq Expr := fun left right =>
  decidable_of_iff (same left right = true) (same_iff left right)

mutual

def predicates : Expr → List Predicate
  | .or operands => predicatesAll operands
  | .and operands => predicatesAll operands
  | .not operand => predicates operand
  | .bracket inner => predicates inner
  | .tests predicates => predicates

def predicatesAll : List Expr → List Predicate
  | [] => []
  | operand :: operands => predicates operand ++ predicatesAll operands

end

mutual

def render : Expr → String
  | .or operands => " OR ".intercalate (renderAll operands)
  | .and operands => " AND ".intercalate (renderAll operands)
  | .not operand => "NOT " ++ render operand
  | .bracket inner => "(" ++ render inner ++ ")"
  | .tests predicates => " ".intercalate (predicates.map Predicate.render)

def renderAll : List Expr → List String
  | [] => []
  | operand :: operands => render operand :: renderAll operands

end

def indentation (depth : Nat) : String := String.ofList (List.replicate (2 * depth) ' ')

def treeLine (depth : Nat) (text : String) : String := indentation depth ++ text ++ "\n"

mutual

def treeAt (depth : Nat) : Expr → String
  | .or operands => treeLine depth "Or" ++ treeAllAt (depth + 1) operands
  | .and operands => treeLine depth "And" ++ treeAllAt (depth + 1) operands
  | .not operand => treeLine depth "Not" ++ treeAt (depth + 1) operand
  | .bracket inner => treeLine depth "Bracket" ++ treeAt (depth + 1) inner
  | .tests predicates =>
    treeLine depth "Predicates" ++
      String.join (predicates.map fun predicate => treeLine (depth + 1) predicate.render)

def treeAllAt (depth : Nat) : List Expr → String
  | [] => ""
  | operand :: operands => treeAt depth operand ++ treeAllAt depth operands

end

def tree (expr : Expr) : String := treeAt 0 expr

end Expr

end MediaSearch.Query
