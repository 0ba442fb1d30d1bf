import MediaSearch.Proofs.Outcome
import MediaSearch.Query.Parser

set_option autoImplicit false

/-!
Two runs of the parser over the same tokens, which may stand at other offsets, and with a depth that may be
larger in the second run. They read the same and fail for the same reason, unless the first one meets a token
that is nested too deeply. So offsets decide nothing, nor does a depth that is large enough.
-/

namespace MediaSearch.Query

inductive SameTokens : List Lexeme → List Lexeme → Prop
  | nil : SameTokens [] []
  | cons (token : Token) (offset offset' : Nat) {rest rest' : List Lexeme} (same : SameTokens rest rest') :
      SameTokens (⟨token, offset⟩ :: rest) (⟨token, offset'⟩ :: rest')

def Failure.SameFault (failure failure' : Failure) : Prop := failure.fault = failure'.fault

-- Where the first run gives up, nothing is said about the second one, which may go deeper.
inductive InLockstep {α : Type} {lexemes lexemes' : List Lexeme} : Parsed α lexemes → Parsed α lexemes' → Prop
  | ok (value : α) {rest rest' : List Lexeme} {shorter shorter'} (same : SameTokens rest rest') :
      InLockstep (.ok (value, ⟨rest, shorter⟩)) (.ok (value, ⟨rest', shorter'⟩))
  | error {failure failure' : Failure} (same : failure.SameFault failure') :
      InLockstep (.error failure) (.error failure')
  | stopped {failure : Failure} (deep : failure.fault = .nestedTooDeeply) (other : Parsed α lexemes') :
      InLockstep (.error failure) other

variable {lexemes lexemes' : List Lexeme}

theorem SameTokens.refl (lexemes : List Lexeme) : SameTokens lexemes lexemes := by
  induction lexemes with
  | nil => exact .nil
  | cons lexeme lexemes ih => exact .cons lexeme.token lexeme.offset lexeme.offset ih

theorem SameTokens.symm (same : SameTokens lexemes lexemes') : SameTokens lexemes' lexemes := by
  induction same with
  | nil => exact .nil
  | cons token offset offset' _ ih => exact .cons token offset' offset ih

theorem SameTokens.startsPredicate (same : SameTokens lexemes lexemes') :
    startsPredicate lexemes = startsPredicate lexemes' := by
  cases same with
  | nil => rfl
  | cons token _ _ _ => cases token <;> rfl

theorem parseBounds_lockstep (queryEnd queryEnd' : Nat) (same : SameTokens lexemes lexemes') :
    InLockstep (parseBounds queryEnd lexemes) (parseBounds queryEnd' lexemes') := by
  rcases same with _ | ⟨token, _, _, same⟩
  · exact .error rfl
  cases token with
  | value low =>
    rcases same with _ | ⟨token, _, _, same⟩
    · exact .error rfl
    cases token with
    | field _ | operator _ | value _ | groupOpen | groupClose | rangeOpen | rangeClose | and | or | not =>
      exact .error rfl
    | _ =>
      rcases same with _ | ⟨token, _, _, same⟩
      · exact .error rfl
      cases token with
      | value high =>
        rcases same with _ | ⟨token, _, _, same⟩
        · exact .error rfl
        cases token with
        | rangeClose => exact .ok (low, high) same
        | _ => exact .error rfl
      | _ => exact .error rfl
  | _ => exact .error rfl

theorem parsePredicate_lockstep (queryEnd queryEnd' : Nat) (same : SameTokens lexemes lexemes') :
    InLockstep (parsePredicate queryEnd lexemes) (parsePredicate queryEnd' lexemes') := by
  rcases same with _ | ⟨token, _, _, same⟩
  · exact .error rfl
  cases token with
  | field name =>
    rcases same with _ | ⟨token, _, _, same⟩
    · exact .error rfl
    cases token with
    | operator op =>
      rcases same with _ | ⟨token, _, _, same⟩
      · exact .error rfl
      cases token with
      | value text => exact .ok (Predicate.compare name op text) same
      | rangeOpen =>
        have bounds := parseBounds_lockstep queryEnd queryEnd' same
        rw [parsePredicate, parsePredicate]
        split
        · generalize parseBounds queryEnd _ = first, parseBounds queryEnd' _ = second at bounds ⊢
          obtain ⟨⟨low, high⟩, left⟩ | fault | deep := bounds
          · exact .ok (Predicate.between name low high) left
          · exact .error fault
          · exact .stopped deep _
        · exact .error rfl
      | _ => exact .error rfl
    | _ => exact .error rfl
  | _ => exact .error rfl

theorem parsePredicates_lockstep (queryEnd queryEnd' : Nat) {lexemes lexemes' : List Lexeme}
    (same : SameTokens lexemes lexemes') :
    InLockstep (parsePredicates queryEnd lexemes) (parsePredicates queryEnd' lexemes') := by
  have test := parsePredicate_lockstep queryEnd queryEnd' same
  rw [parsePredicates, parsePredicates]
  generalize parsePredicate queryEnd lexemes = first, parsePredicate queryEnd' lexemes' = second at test ⊢
  obtain ⟨predicate, left⟩ | fault | deep := test
  case error => exact .error fault
  case stopped => exact .stopped deep _
  have others := parsePredicates_lockstep queryEnd queryEnd' left
  simp only [left.startsPredicate]
  split
  · generalize parsePredicates queryEnd _ = first, parsePredicates queryEnd' _ = second at others ⊢
    obtain ⟨predicates, left⟩ | fault | deep := others
    · exact .ok (predicate :: predicates) left
    · exact .error fault
    · exact .stopped deep _
  · exact .ok [predicate] left
termination_by lexemes.length

def OperandsInLockstep (operand operand' : (tokens : List Lexeme) → Parsed Expr tokens) : Prop :=
  ∀ {lexemes lexemes' : List Lexeme}, SameTokens lexemes lexemes' →
    InLockstep (operand lexemes) (operand' lexemes')

section Operands

variable {operand operand' : (tokens : List Lexeme) → Parsed Expr tokens}

theorem parseOperands_lockstep (each : OperandsInLockstep operand operand') {lexemes lexemes' : List Lexeme}
    (same : SameTokens lexemes lexemes') :
    InLockstep (parseOperands operand lexemes) (parseOperands operand' lexemes') := by
  have head := each same
  rw [parseOperands, parseOperands]
  generalize operand lexemes = first, operand' lexemes' = second at head ⊢
  obtain ⟨expr, left⟩ | fault | deep := head
  case error => exact .error fault
  case stopped => exact .stopped deep _
  -- an operand may stand right beside the next one, or AND between them
  have beside := parseOperands_lockstep each left
  obtain _ | ⟨token, _, _, left⟩ := left
  case nil => exact .ok [expr] .nil
  cases token with
  | and =>
    have others := parseOperands_lockstep each left
    dsimp only
    generalize parseOperands operand _ = first, parseOperands operand' _ = second at others ⊢
    obtain ⟨exprs, left⟩ | fault | deep := others
    · exact .ok (expr :: exprs) left
    · exact .error fault
    · exact .stopped deep _
  | field _ | not | groupOpen =>
    dsimp only [startsOperand]
    generalize parseOperands operand _ = first, parseOperands operand' _ = second at beside ⊢
    obtain ⟨exprs, left⟩ | fault | deep := beside
    · exact .ok (expr :: exprs) left
    · exact .error fault
    · exact .stopped deep _
  | _ => exact .ok [expr] (.cons _ _ _ left)
termination_by lexemes.length
decreasing_by all_goals grind

theorem parseAlternatives_lockstep (each : OperandsInLockstep operand operand')
    {lexemes lexemes' : List Lexeme} (same : SameTokens lexemes lexemes') :
    InLockstep (parseAlternatives operand lexemes) (parseAlternatives operand' lexemes') := by
  have head := parseOperands_lockstep each same
  rw [parseAlternatives, parseAlternatives]
  generalize parseOperands operand lexemes = first, parseOperands operand' lexemes' = second at head ⊢
  obtain ⟨exprs, left⟩ | fault | deep := head
  case error => exact .error fault
  case stopped => exact .stopped deep _
  obtain _ | ⟨token, _, _, left⟩ := left
  case nil => exact .ok [Expr.allOf exprs] .nil
  cases token with
  | or =>
    have others := parseAlternatives_lockstep each left
    dsimp only
    generalize parseAlternatives operand _ = first, parseAlternatives operand' _ = second at others ⊢
    obtain ⟨alternatives, left⟩ | fault | deep := others
    · exact .ok (Expr.allOf exprs :: alternatives) left
    · exact .error fault
    · exact .stopped deep _
  | _ => exact .ok [Expr.allOf exprs] (.cons _ _ _ left)
termination_by lexemes.length
decreasing_by grind

theorem parseExpr_lockstep (each : OperandsInLockstep operand operand') (same : SameTokens lexemes lexemes') :
    InLockstep (parseExpr operand lexemes) (parseExpr operand' lexemes') := by
  have alternatives := parseAlternatives_lockstep each same
  rw [parseExpr, parseExpr]
  generalize parseAlternatives operand _ = first, parseAlternatives operand' _ = second at alternatives ⊢
  obtain ⟨exprs, left⟩ | fault | deep := alternatives
  · exact .ok (Expr.anyOf exprs) left
  · exact .error fault
  · exact .stopped deep _

theorem parseGroup_lockstep (start start' : Nat) (each : OperandsInLockstep operand operand')
    (same : SameTokens lexemes lexemes') :
    InLockstep (parseGroup start operand lexemes) (parseGroup start' operand' lexemes') := by
  have inner := parseExpr_lockstep each same
  by_cases closes : ∃ offset rest, lexemes = ⟨.groupClose, offset⟩ :: rest
  · obtain ⟨_, _, rfl⟩ := closes
    obtain _ | ⟨_, _, _, _⟩ := same
    exact .error rfl
  have closes' : ¬ ∃ offset rest, lexemes' = ⟨.groupClose, offset⟩ :: rest := by
    rintro ⟨_, _, rfl⟩
    obtain _ | ⟨_, _, _, _⟩ := same
    exact closes ⟨_, _, rfl⟩
  rw [parseGroup.eq_2 start operand lexemes fun _ _ empty => closes ⟨_, _, empty⟩,
    parseGroup.eq_2 start' operand' lexemes' fun _ _ empty => closes' ⟨_, _, empty⟩]
  generalize parseExpr operand _ = first, parseExpr operand' _ = second at inner ⊢
  obtain ⟨expr, left⟩ | fault | deep := inner
  case error => exact .error fault
  case stopped => exact .stopped deep _
  obtain _ | ⟨token, _, _, left⟩ := left
  case nil => exact .error rfl
  cases token with
  | groupClose => exact .ok (Expr.bracket expr) left
  | _ => exact .error rfl

end Operands

theorem parseOperand_tests_lockstep (queryEnd queryEnd' depth depth' offset offset' : Nat) (name : String)
    (same : SameTokens lexemes lexemes') :
    InLockstep (parseOperand queryEnd depth (⟨.field name, offset⟩ :: lexemes))
      (parseOperand queryEnd' depth' (⟨.field name, offset'⟩ :: lexemes')) := by
  have tests := parsePredicates_lockstep queryEnd queryEnd' (.cons (.field name) offset offset' same)
  rw [parseOperand, parseOperand]
  generalize parsePredicates queryEnd _ = first, parsePredicates queryEnd' _ = second at tests ⊢
  obtain ⟨predicates, left⟩ | fault | deep := tests
  · exact .ok (Expr.tests predicates) left
  · exact .error fault
  · exact .stopped deep _

theorem parseOperand_lockstep (queryEnd queryEnd' : Nat) {depth depth' : Nat} (deeper : depth ≤ depth') :
    OperandsInLockstep (parseOperand queryEnd depth) (parseOperand queryEnd' depth') := by
  induction depth generalizing depth' with
  | zero =>
    intro lexemes lexemes' same
    obtain _ | ⟨token, offset, offset', same⟩ := same
    case nil => cases depth' <;> exact .error rfl
    cases token with
    | not | groupOpen => exact .stopped rfl _
    | field name => exact parseOperand_tests_lockstep _ _ _ _ _ _ name same
    | _ => cases depth' <;> exact .error rfl
  | succ depth ih =>
    intro lexemes lexemes' same
    obtain _ | depth' := depth'
    case zero => omega
    have inner : OperandsInLockstep (parseOperand queryEnd depth) (parseOperand queryEnd' depth') :=
      ih (by omega)
    obtain _ | ⟨token, offset, offset', same⟩ := same
    case nil => exact .error rfl
    cases token with
    | not =>
      have negated := inner same
      rw [parseOperand, parseOperand]
      generalize parseOperand queryEnd depth _ = first, parseOperand queryEnd' depth' _ = second at negated ⊢
      obtain ⟨expr, left⟩ | fault | deep := negated
      · exact .ok (Expr.not expr) left
      · exact .error fault
      · exact .stopped deep _
    | groupOpen =>
      have group := parseGroup_lockstep offset offset' inner same
      rw [parseOperand, parseOperand]
      generalize parseGroup offset _ _ = first, parseGroup offset' _ _ = second at group ⊢
      obtain ⟨expr, left⟩ | fault | deep := group
      · exact .ok expr left
      · exact .error fault
      · exact .stopped deep _
    | field name => exact parseOperand_tests_lockstep _ _ _ _ _ _ name same
    | _ => exact .error rfl

theorem parseTokens_alike (queryEnd queryEnd' : Nat) (same : SameTokens lexemes lexemes') :
    EndAlike Failure.SameFault (parseTokens queryEnd lexemes) (parseTokens queryEnd' lexemes') := by
  have there := parseExpr_lockstep (parseOperand_lockstep queryEnd queryEnd' (Nat.le_refl maxDepth)) same
  have back := parseExpr_lockstep (parseOperand_lockstep queryEnd' queryEnd (Nat.le_refl maxDepth)) same.symm
  obtain _ | ⟨_, _, _, _⟩ := same
  case nil => exact .error rfl
  simp only [parseTokens]
  generalize parseExpr (parseOperand queryEnd maxDepth) _ = first,
    parseExpr (parseOperand queryEnd' maxDepth) _ = second at there back ⊢
  obtain ⟨expr, left⟩ | fault | deep := there
  case error => exact .error fault
  case stopped =>
    obtain _ | fault | deep' := back
    · exact .error fault.symm
    · exact .error (deep.trans deep'.symm)
  obtain _ | ⟨token, _, _, _⟩ := left
  case nil => exact .ok expr
  cases token <;> exact .error rfl

end MediaSearch.Query
