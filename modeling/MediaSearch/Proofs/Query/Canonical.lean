import MediaSearch.Query.Expr
import MediaSearch.Text.Ascii
import MediaSearch.Text.Blank

set_option autoImplicit false

namespace MediaSearch.Query

open Text (isBlank isWordChar sameIgnoringCase)

theorem forall_chars {text : List Char} {plain : Char → Prop} [DecidablePred plain]
    (checked : text.all (fun c => decide (plain c)) = true) : ∀ c ∈ text, plain c := by
  simpa using checked

structure IsFieldName (name : List Char) : Prop where
  nonempty : name ≠ []
  word : ∀ c ∈ name, isWordChar c = true

def IsQuoted (text : List Char) : Prop :=
  ∃ inner, text = '"' :: (inner ++ ['"']) ∧ '"' ∉ inner

structure IsBareValue (op : Operator) (text : List Char) : Prop where
  nonempty : text ≠ []
  plain : ∀ c ∈ text, isBlank c = false ∧ c ≠ '(' ∧ c ≠ ')'
  noRange : text.head? ≠ some '['
  noQuote : text.head? ≠ some '"'
  -- Otherwise the first character would become the end of the operator.
  noEqual : op = .less ∨ op = .greater → text.head? ≠ some '='

structure IsBareBound (text : List Char) : Prop where
  nonempty : text ≠ []
  plain : ∀ c ∈ text, isBlank c = false ∧ c ≠ ']'
  noQuote : text.head? ≠ some '"'
  notTo : sameIgnoringCase text "TO".toList = false

def IsBound (text : List Char) : Prop := IsQuoted text ∨ IsBareBound text

namespace Predicate

def Canonical : Predicate → Prop
  | .compare field op value =>
      IsFieldName field.toList ∧ (IsQuoted value.toList ∨ IsBareValue op value.toList)
  | .between field low high =>
      IsFieldName field.toList ∧ IsBound low.toList ∧ IsBound high.toList

def tokens : Predicate → List Token
  | .compare field op value => [.field field, .operator op, .value value]
  | .between field low high =>
      [.field field, .operator .contains, .rangeOpen, .value low, .to, .value high, .rangeClose]

end Predicate

namespace Expr

def isOr : Expr → Bool
  | .or _ => true
  | _ => false

def isUnary : Expr → Bool
  | .or _ | .and _ => false
  | .not _ | .bracket _ | .tests _ => true

inductive Canonical : Expr → Prop
  | or {operands : List Expr} (several : 2 ≤ operands.length)
      (flat : ∀ operand ∈ operands, operand.isOr = false)
      (each : ∀ operand ∈ operands, Canonical operand) : Canonical (.or operands)
  | and {operands : List Expr} (several : 2 ≤ operands.length)
      (unary : ∀ operand ∈ operands, operand.isUnary = true)
      (each : ∀ operand ∈ operands, Canonical operand) : Canonical (.and operands)
  | not {operand : Expr} (unary : operand.isUnary = true) (inner : Canonical operand) :
      Canonical (.not operand)
  | bracket {inner : Expr} (canonical : Canonical inner) : Canonical (.bracket inner)
  | tests {predicates : List Predicate} (nonempty : predicates ≠ [])
      (each : ∀ predicate ∈ predicates, predicate.Canonical) : Canonical (.tests predicates)

mutual

def depth : Expr → Nat
  | .or operands => depthAll operands
  | .and operands => depthAll operands
  | .not operand => depth operand + 1
  | .bracket inner => depth inner + 1
  | .tests _ => 0

def depthAll : List Expr → Nat
  | [] => 0
  | operand :: operands => max (depth operand) (depthAll operands)

end

theorem depth_le_depthAll {operand : Expr} {operands : List Expr} (member : operand ∈ operands) :
    operand.depth ≤ depthAll operands := by
  induction operands with
  | nil => simp at member
  | cons first rest ih =>
    rcases List.mem_cons.mp member with rfl | later
    · exact Nat.le_max_left _ _
    · exact Nat.le_trans (ih later) (Nat.le_max_right _ _)

mutual

def tokens : Expr → List Token
  | .or operands => [.or].intercalate (tokensAll operands)
  | .and operands => [.and].intercalate (tokensAll operands)
  | .not operand => .not :: tokens operand
  | .bracket inner => .groupOpen :: (tokens inner ++ [.groupClose])
  | .tests predicates => predicates.flatMap Predicate.tokens

def tokensAll : List Expr → List (List Token)
  | [] => []
  | operand :: operands => tokens operand :: tokensAll operands

end

theorem tokensAll_eq_map (operands : List Expr) : tokensAll operands = operands.map tokens := by
  induction operands with
  | nil => rfl
  | cons operand operands ih => simp [tokensAll, ih]

theorem renderAll_eq_map (operands : List Expr) : renderAll operands = operands.map render := by
  induction operands with
  | nil => rfl
  | cons operand operands ih => simp [renderAll, ih]

end Expr

end MediaSearch.Query
