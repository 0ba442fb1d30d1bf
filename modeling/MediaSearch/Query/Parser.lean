import MediaSearch.Query.Expr
import MediaSearch.Query.Lexer

set_option autoImplicit false

/-!
Reading tokens into an expression. Tests that stand side by side bind tightest, then `NOT`, then
`AND` (which may be left out next to a group or a negation), then `OR`.
-/

namespace MediaSearch.Query

def maxDepth : Nat := 128

/-- What was read, and the tokens that are left, of which there are fewer than before. -/
abbrev Parsed (α : Type) (tokens : List Lexeme) : Type :=
  Except Failure (α × { rest : List Lexeme // rest.length < tokens.length })

def offsetOf (queryEnd : Nat) : List Lexeme → Nat
  | [] => queryEnd
  | lexeme :: _ => lexeme.offset

def takesRange : Operator → Bool
  | .contains => true
  | .exactly => true
  | _ => false

def parseBounds (queryEnd : Nat) : (tokens : List Lexeme) → Parsed (String × String) tokens
  | ⟨.value low, _⟩ :: ⟨.to, _⟩ :: ⟨.value high, _⟩ :: ⟨.rangeClose, _⟩ :: rest =>
    .ok ((low, high), ⟨rest, by simp; omega⟩)
  | ⟨.value _, _⟩ :: ⟨.to, _⟩ :: ⟨.value _, _⟩ :: rest =>
    .error ⟨.rangeEndExpected, offsetOf queryEnd rest⟩
  | ⟨.value _, _⟩ :: ⟨.to, _⟩ :: rest => .error ⟨.upperBoundExpected, offsetOf queryEnd rest⟩
  | ⟨.value _, _⟩ :: rest => .error ⟨.toExpected, offsetOf queryEnd rest⟩
  | rest => .error ⟨.lowerBoundExpected, offsetOf queryEnd rest⟩

def parsePredicate (queryEnd : Nat) : (tokens : List Lexeme) → Parsed Predicate tokens
  | ⟨.field field, _⟩ :: ⟨.operator op, _⟩ :: ⟨.value value, _⟩ :: rest =>
    .ok (.compare field op value, ⟨rest, by simp; omega⟩)
  | ⟨.field field, _⟩ :: ⟨.operator op, _⟩ :: ⟨.rangeOpen, offset⟩ :: rest =>
    if takesRange op then
      match parseBounds queryEnd rest with
      | .error failure => .error failure
      | .ok ((low, high), ⟨after, shorter⟩) =>
        .ok (.between field low high, ⟨after, by simp; omega⟩)
    else .error ⟨.rangeAfterOperator op, offset⟩
  | ⟨.field field, _⟩ :: ⟨.operator op, _⟩ :: rest =>
    .error ⟨.valueExpected field op, offsetOf queryEnd rest⟩
  | ⟨.field field, _⟩ :: rest => .error ⟨.operatorExpected field, offsetOf queryEnd rest⟩
  | rest => .error ⟨.fieldExpected, offsetOf queryEnd rest⟩

def startsPredicate : List Lexeme → Bool
  | ⟨.field _, _⟩ :: _ => true
  | _ => false

def startsOperand : List Lexeme → Bool
  | ⟨.field _, _⟩ :: _ => true
  | ⟨.not, _⟩ :: _ => true
  | ⟨.groupOpen, _⟩ :: _ => true
  | _ => false

def parsePredicates (queryEnd : Nat) (tokens : List Lexeme) : Parsed (List Predicate) tokens :=
  match parsePredicate queryEnd tokens with
  | .error failure => .error failure
  | .ok (predicate, ⟨rest, shorter⟩) =>
    if startsPredicate rest then
      match parsePredicates queryEnd rest with
      | .error failure => .error failure
      | .ok (predicates, ⟨after, shorterStill⟩) =>
        .ok (predicate :: predicates, ⟨after, by omega⟩)
    else .ok ([predicate], ⟨rest, shorter⟩)
termination_by tokens.length

def parseOperands (operand : (tokens : List Lexeme) → Parsed Expr tokens) (tokens : List Lexeme) :
    Parsed (List Expr) tokens :=
  match operand tokens with
  | .error failure => .error failure
  | .ok (first, ⟨rest, shorter⟩) =>
    match rest with
    | ⟨.and, _⟩ :: afterAnd =>
      match parseOperands operand afterAnd with
      | .error failure => .error failure
      | .ok (others, ⟨after, shorterStill⟩) =>
        .ok (first :: others, ⟨after, by simp at shorter; omega⟩)
    | rest =>
      if startsOperand rest then
        match parseOperands operand rest with
        | .error failure => .error failure
        | .ok (others, ⟨after, shorterStill⟩) => .ok (first :: others, ⟨after, by omega⟩)
      else .ok ([first], ⟨rest, shorter⟩)
termination_by tokens.length
decreasing_by
  · simp at shorter; omega
  · exact shorter

def parseAlternatives (operand : (tokens : List Lexeme) → Parsed Expr tokens)
    (tokens : List Lexeme) : Parsed (List Expr) tokens :=
  match parseOperands operand tokens with
  | .error failure => .error failure
  | .ok (operands, ⟨rest, shorter⟩) =>
    match rest with
    | ⟨.or, _⟩ :: afterOr =>
      match parseAlternatives operand afterOr with
      | .error failure => .error failure
      | .ok (others, ⟨after, shorterStill⟩) =>
        .ok (Expr.allOf operands :: others, ⟨after, by simp at shorter; omega⟩)
    | rest => .ok ([Expr.allOf operands], ⟨rest, shorter⟩)
termination_by tokens.length
decreasing_by simp at shorter; omega

def parseExpr (operand : (tokens : List Lexeme) → Parsed Expr tokens) (tokens : List Lexeme) :
    Parsed Expr tokens :=
  match parseAlternatives operand tokens with
  | .error failure => .error failure
  | .ok (alternatives, rest) => .ok (Expr.anyOf alternatives, rest)

def parseGroup (start : Nat) (operand : (tokens : List Lexeme) → Parsed Expr tokens) :
    (tokens : List Lexeme) → Parsed Expr tokens
  | ⟨.groupClose, offset⟩ :: _ => .error ⟨.emptyGroup, offset⟩
  | tokens =>
    match parseExpr operand tokens with
    | .error failure => .error failure
    | .ok (inner, ⟨rest, shorter⟩) =>
      match rest with
      | [] => .error ⟨.unclosedGroup, start⟩
      | ⟨.groupClose, _⟩ :: after => .ok (.bracket inner, ⟨after, by simp at shorter; omega⟩)
      | ⟨_, offset⟩ :: _ => .error ⟨.closeExpected, offset⟩

/-- An operand of `AND`: a negation, a group, or tests side by side. Groups and negations may be
`depth` deep. -/
def parseOperand (queryEnd : Nat) : (depth : Nat) → (tokens : List Lexeme) → Parsed Expr tokens
  | 0, ⟨.not, offset⟩ :: _ => .error ⟨.nestedTooDeeply, offset⟩
  | 0, ⟨.groupOpen, offset⟩ :: _ => .error ⟨.nestedTooDeeply, offset⟩
  | depth + 1, ⟨.not, _⟩ :: rest =>
    match parseOperand queryEnd depth rest with
    | .error failure => .error failure
    | .ok (operand, ⟨after, shorter⟩) => .ok (.not operand, ⟨after, by simp; omega⟩)
  | depth + 1, ⟨.groupOpen, offset⟩ :: rest =>
    match parseGroup offset (parseOperand queryEnd depth) rest with
    | .error failure => .error failure
    | .ok (group, ⟨after, shorter⟩) => .ok (group, ⟨after, by simp; omega⟩)
  | _, ⟨.field name, offset⟩ :: rest =>
    match parsePredicates queryEnd (⟨.field name, offset⟩ :: rest) with
    | .error failure => .error failure
    | .ok (predicates, after) => .ok (.tests predicates, after)
  | _, ⟨.groupClose, offset⟩ :: _ => .error ⟨.unexpectedClose, offset⟩
  | _, ⟨.or, offset⟩ :: _ => .error ⟨.unexpectedOr, offset⟩
  | _, ⟨.and, offset⟩ :: _ => .error ⟨.unexpectedAnd, offset⟩
  | _, ⟨token, offset⟩ :: _ => .error ⟨.unexpectedToken token, offset⟩
  | _, [] => .error ⟨.unexpectedEnd, queryEnd⟩

def parseTokens (queryEnd : Nat) : List Lexeme → Except Failure Expr
  | [] => .error ⟨.emptyQuery, queryEnd⟩
  | tokens =>
    match parseExpr (parseOperand queryEnd maxDepth) tokens with
    | .error failure => .error failure
    | .ok (expr, ⟨rest, _⟩) =>
      match rest with
      | [] => .ok expr
      | ⟨.groupClose, offset⟩ :: _ => .error ⟨.unexpectedClose, offset⟩
      | ⟨token, offset⟩ :: _ => .error ⟨.unexpectedToken token, offset⟩

def parse (input : String) : Except ParseError Expr :=
  match tokenize input with
  | .error error => .error error
  | .ok tokens =>
    (parseTokens (Text.byteLength input.toList) tokens).mapError (Failure.toParseError input)

end MediaSearch.Query
