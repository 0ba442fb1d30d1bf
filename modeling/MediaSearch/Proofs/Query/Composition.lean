import MediaSearch.Proofs.Query.KeptTokens
import MediaSearch.Proofs.Query.Seams

set_option autoImplicit false

namespace MediaSearch.Query

variable {depth limit : Nat} {tokens more : List Token}

namespace Expr

-- What an expression adds to an OR that it becomes part of.
def alternatives : Expr → List Expr
  | .or operands => operands
  | expr => [expr]

def conjuncts : Expr → List Expr
  | .and operands => operands
  | expr => [expr]

section Connectives

variable {exprs others : List Expr}

theorem conjuncts_allOf (unary : ∀ expr ∈ exprs, expr.isUnary = true) : (allOf exprs).conjuncts = exprs := by
  rcases exprs with _ | ⟨expr, _ | ⟨second, exprs⟩⟩
  · rfl
  · cases expr with
    | and operands => cases unary (.and operands) List.mem_cons_self
    | _ => rfl
  · rfl

theorem isOr_allOf (unary : ∀ expr ∈ exprs, expr.isUnary = true) : (allOf exprs).isOr = false := by
  rcases exprs with _ | ⟨expr, _ | ⟨second, exprs⟩⟩
  · rfl
  · exact isOr_of_isUnary (unary expr List.mem_cons_self)
  · rfl

theorem alternatives_anyOf (flat : ∀ expr ∈ exprs, expr.isOr = false) : (anyOf exprs).alternatives = exprs := by
  rcases exprs with _ | ⟨expr, _ | ⟨second, exprs⟩⟩
  · rfl
  · cases expr with
    | or operands => cases flat (.or operands) List.mem_cons_self
    | _ => rfl
  · rfl

def connect (node : List Expr → Expr) : List Expr → Expr
  | [expr] => expr
  | exprs => node exprs

theorem allOf_eq (exprs : List Expr) : allOf exprs = connect .and exprs := by
  rcases exprs with _ | ⟨_, _ | _⟩ <;> rfl

theorem anyOf_eq (exprs : List Expr) : anyOf exprs = connect .or exprs := by
  rcases exprs with _ | ⟨_, _ | _⟩ <;> rfl

theorem connect_append (node : List Expr → Expr) (left : exprs ≠ []) (right : others ≠ []) :
    connect node (exprs ++ others) = node (exprs ++ others) := by
  rcases exprs with _ | ⟨first, _ | ⟨second, exprs⟩⟩
  · exact absurd rfl left
  · rcases others with _ | ⟨second, others⟩
    · exact absurd rfl right
    · rfl
  · rfl

theorem depth_le_connect {node : List Expr → Expr} (deep : ∀ exprs, (node exprs).depth = depthAll exprs)
    {expr : Expr} (member : expr ∈ exprs) : expr.depth ≤ (connect node exprs).depth := by
  rcases exprs with _ | ⟨first, _ | ⟨second, exprs⟩⟩
  · cases member
  · rw [List.mem_singleton.mp member]
    exact Nat.le_refl _
  · rw [connect, deep]
    · exact depth_le_depthAll member
    · simp

end Connectives

end Expr

section Joining

variable {exprs others : List Expr} {expr : Expr}

theorem SpelledOperand.isUnary (operand : SpelledOperand depth expr tokens) : expr.isUnary = true := by
  unfold SpelledOperand at operand
  split at operand
  · rfl
  · rfl
  · rfl
  · exact operand.elim

theorem SpelledOperands.isUnary (operands : SpelledOperands (SpelledOperand depth) exprs tokens) :
    ∀ expr ∈ exprs, expr.isUnary = true := by
  induction operands with
  | one operand => exact List.forall_mem_singleton.mpr operand.isUnary
  | joined operand _ ih => exact List.forall_mem_cons.mpr ⟨operand.isUnary, ih⟩
  | adjacent operand _ _ ih => exact List.forall_mem_cons.mpr ⟨operand.isUnary, ih⟩

theorem SpelledOperands.append (first : SpelledOperands (SpelledOperand depth) exprs tokens)
    (second : SpelledOperands (SpelledOperand depth) others more) :
    SpelledOperands (SpelledOperand depth) (exprs ++ others) (tokens ++ .and :: more) := by
  induction first with
  | one operand => exact .joined operand second
  | joined operand _ ih =>
    rw [List.append_assoc]
    exact .joined operand ih
  | @adjacent _ _ _ rest operand operands apart ih =>
    rw [List.append_assoc]
    have opens : opensOperand rest = true := by
      simpa using operands.opens (fun _ _ more operand => operand.opens more) []
    refine .adjacent operand ih fun tests => ?_
    rw [opensTest_append opens]
    exact apart tests

theorem SpelledAlternatives.append {Operand : Expr → List Token → Prop}
    (first : SpelledAlternatives Operand exprs tokens) (second : SpelledAlternatives Operand others more) :
    SpelledAlternatives Operand (exprs ++ others) (tokens ++ .or :: more) := by
  induction first with
  | one operands => exact .more operands second
  | more operands _ ih =>
    rw [List.append_assoc]
    exact .more operands ih

theorem SpelledAlternatives.notOr (alternatives : SpelledAlternatives (SpelledOperand depth) exprs tokens) :
    ∀ expr ∈ exprs, expr.isOr = false := by
  induction alternatives with
  | one operands => exact List.forall_mem_singleton.mpr (Expr.isOr_allOf operands.isUnary)
  | more operands _ ih => exact List.forall_mem_cons.mpr ⟨Expr.isOr_allOf operands.isUnary, ih⟩

theorem SpelledExpr.alternatives (spelled : SpelledExpr (SpelledOperand depth) expr tokens) :
    SpelledAlternatives (SpelledOperand depth) expr.alternatives tokens := by
  obtain ⟨alternatives⟩ := spelled
  rwa [Expr.alternatives_anyOf alternatives.notOr]

theorem SpelledExpr.conjuncts (spelled : SpelledExpr (SpelledOperand depth) expr tokens)
    (notOr : expr.isOr = false) : SpelledOperands (SpelledOperand depth) expr.conjuncts tokens := by
  obtain ⟨alternatives⟩ := spelled
  cases alternatives with
  | one operands =>
    rw [Expr.anyOf, Expr.conjuncts_allOf operands.isUnary]
    exact operands
  | more _ rest =>
    cases rest <;> cases notOr

end Joining

section Shallow

variable {Operand Operand' : Expr → List Token → Prop} {exprs : List Expr} {expr : Expr}
  (implies : ∀ expr tokens, expr.depth ≤ limit → Operand expr tokens → Operand' expr tokens)

include implies

theorem SpelledOperands.shallow (operands : SpelledOperands Operand exprs tokens)
    (shallow : ∀ expr ∈ exprs, expr.depth ≤ limit) : SpelledOperands Operand' exprs tokens := by
  induction operands with
  | one operand => exact .one (implies _ _ (shallow _ List.mem_cons_self) operand)
  | joined operand _ ih =>
    obtain ⟨first, others⟩ := List.forall_mem_cons.mp shallow
    exact .joined (implies _ _ first operand) (ih others)
  | adjacent operand _ apart ih =>
    obtain ⟨first, others⟩ := List.forall_mem_cons.mp shallow
    exact .adjacent (implies _ _ first operand) (ih others) apart

theorem SpelledAlternatives.shallow (alternatives : SpelledAlternatives Operand exprs tokens)
    (shallow : ∀ expr ∈ exprs, expr.depth ≤ limit) : SpelledAlternatives Operand' exprs tokens := by
  have operandsShallow {exprs : List Expr} (bound : (Expr.allOf exprs).depth ≤ limit) :
      ∀ expr ∈ exprs, expr.depth ≤ limit := by
    intro expr member
    rw [Expr.allOf_eq] at bound
    exact Nat.le_trans (Expr.depth_le_connect (fun _ => rfl) member) bound
  induction alternatives with
  | one operands =>
    exact .one (operands.shallow implies (operandsShallow (shallow _ List.mem_cons_self)))
  | more operands _ ih =>
    obtain ⟨first, others⟩ := List.forall_mem_cons.mp shallow
    exact .more (operands.shallow implies (operandsShallow first)) (ih others)

theorem SpelledExpr.shallow (spelled : SpelledExpr Operand expr tokens) (shallow : expr.depth ≤ limit) :
    SpelledExpr Operand' expr tokens := by
  obtain ⟨alternatives⟩ := spelled
  refine .of (alternatives.shallow implies fun expr member => ?_)
  rw [Expr.anyOf_eq] at shallow
  exact Nat.le_trans (Expr.depth_le_connect (fun _ => rfl) member) shallow

end Shallow

-- The depth of the expression is what counts, not the one that was allowed.
theorem SpelledOperand.shallow (depth limit : Nat) (expr : Expr) (tokens : List Token)
    (bound : expr.depth ≤ limit) (operand : SpelledOperand depth expr tokens) :
    SpelledOperand limit expr tokens := by
  induction limit generalizing depth expr tokens with
  | zero =>
    cases expr with
    | tests predicates => exact SpelledOperand.tests.mpr (SpelledOperand.tests.mp operand)
    | not _ | bracket _ => simp [Expr.depth] at bound
    | or _ | and _ => cases operand.isUnary
  | succ limit ih =>
    cases expr with
    | tests predicates => exact SpelledOperand.tests.mpr (SpelledOperand.tests.mp operand)
    | not inner =>
      cases depth with
      | zero => cases operand
      | succ depth =>
        obtain ⟨inside, rfl, spelled⟩ := operand
        exact ⟨inside, rfl, ih depth inner inside (Nat.le_of_succ_le_succ bound) spelled⟩
    | bracket inner =>
      cases depth with
      | zero => cases operand
      | succ depth =>
        obtain ⟨inside, rfl, spelled⟩ := operand
        exact ⟨inside, rfl, spelled.shallow (ih depth) (Nat.le_of_succ_le_succ bound)⟩
    | or _ | and _ => cases operand.isUnary

theorem SpelledOperand.spelledExpr {expr : Expr} (operand : SpelledOperand depth expr tokens) :
    SpelledExpr (SpelledOperand depth) expr tokens :=
  .of (.one (.one operand))

theorem Scans.of_parse {input : String} {expr : Expr} (parsed : parse input = .ok expr) :
    ∃ tokens, Scans input.toList tokens ∧ SpelledExpr (SpelledOperand maxDepth) expr tokens := by
  obtain ⟨lexemes, scanned, spelled⟩ := parse_eq_ok_iff.mp parsed
  exact ⟨_, scans_of_tokenize scanned, spelled⟩

theorem parse_composes {first second : String} {left right : Expr} (parsedFirst : parse first = .ok left)
    (parsedSecond : parse second = .ok right) :
    parse (first ++ " OR " ++ second) = .ok (.or (left.alternatives ++ right.alternatives)) ∧
      (left.isOr = false → right.isOr = false →
        parse (first ++ " AND " ++ second) = .ok (.and (left.conjuncts ++ right.conjuncts))) ∧
      (left.depth ≤ 127 → parse ("(" ++ first ++ ")") = .ok (.bracket left)) ∧
      (left.depth ≤ 126 → parse ("NOT (" ++ first ++ ")") = .ok (.not (.bracket left))) := by
  obtain ⟨tokens, scans, spelled⟩ := Scans.of_parse parsedFirst
  obtain ⟨more, scansMore, spelledMore⟩ := Scans.of_parse parsedSecond
  refine ⟨?or, ?and, ?group, ?negation⟩
  case or =>
    have keyword : Scans "OR".toList [.or] :=
      scans_keyword (by decide) (forall_chars (by decide)) (by decide)
    have whole := SpelledExpr.of (spelled.alternatives.append spelledMore.alternatives)
    rw [Expr.anyOf_eq, Expr.connect_append _ spelled.alternatives.ne_nil spelledMore.alternatives.ne_nil] at whole
    refine parse_of_scans ?_ whole
    simpa using keyword.joined scans scansMore
  case and =>
    intro notOr notOrMore
    have keyword : Scans "AND".toList [.and] :=
      scans_keyword (by decide) (forall_chars (by decide)) (by decide)
    have operands := spelled.conjuncts notOr
    have operandsMore := spelledMore.conjuncts notOrMore
    have whole := SpelledExpr.of (.one (operands.append operandsMore))
    rw [Expr.anyOf, Expr.allOf_eq, Expr.connect_append _ operands.ne_nil operandsMore.ne_nil] at whole
    refine parse_of_scans ?_ whole
    simpa using keyword.joined scans scansMore
  case group =>
    intro shallow
    have group : SpelledOperand 128 (.bracket left) (.groupOpen :: (tokens ++ [.groupClose])) :=
      ⟨tokens, rfl, spelled.shallow (SpelledOperand.shallow maxDepth 127) shallow⟩
    refine parse_of_scans ?_ group.spelledExpr
    simpa using scans.grouped
  case negation =>
    intro shallow
    have keyword : Scans "NOT".toList [.not] :=
      scans_keyword (by decide) (forall_chars (by decide)) (by decide)
    have negation : SpelledOperand 128 (.not (.bracket left)) (.not :: .groupOpen :: (tokens ++ [.groupClose])) :=
      ⟨_, rfl, tokens, rfl, spelled.shallow (SpelledOperand.shallow maxDepth 126) shallow⟩
    refine parse_of_scans ?_ negation.spelledExpr
    simpa using keyword.spaced scans.grouped

theorem parse_composes_adjacent :
    ∃ left right, parse "not (a:1) b:\"x OR\"" = .ok left ∧ parse "c:[1 TO 2]" = .ok right ∧
      left = .and [.not (.bracket (.tests [.compare "a" .contains "1"])),
        .tests [.compare "b" .contains "\"x OR\""]] ∧
      right = .tests [.between "c" "1" "2"] ∧
      parse "not (a:1) b:\"x OR\" OR c:[1 TO 2]" = .ok (.or [left, right]) ∧
      parse "not (a:1) b:\"x OR\" AND c:[1 TO 2]" =
        .ok (.and [.not (.bracket (.tests [.compare "a" .contains "1"])),
          .tests [.compare "b" .contains "\"x OR\""], right]) ∧
      parse "(not (a:1) b:\"x OR\")" = .ok (.bracket left) ∧
      parse "NOT (not (a:1) b:\"x OR\")" = .ok (.not (.bracket left)) := by
  have inner : Predicate.Canonical (.compare "a" .contains "1") :=
    ⟨⟨by decide, forall_chars (by decide)⟩,
      .inr ⟨by decide, forall_chars (by decide), by decide, by decide, by decide⟩⟩
  have quoted : Predicate.Canonical (.compare "b" .contains "\"x OR\"") :=
    ⟨⟨by decide, forall_chars (by decide)⟩, .inl ⟨"x OR".toList, by decide, by decide⟩⟩
  have range : Predicate.Canonical (.between "c" "1" "2") :=
    ⟨⟨by decide, forall_chars (by decide)⟩,
      .inr ⟨by decide, forall_chars (by decide), by decide, by decide⟩,
      .inr ⟨by decide, forall_chars (by decide), by decide, by decide⟩⟩
  have isNot : Scans "not".toList [.not] :=
    scans_keyword (by decide) (forall_chars (by decide)) (by decide)
  have one (predicate : Predicate) (depth : Nat) :
      SpelledOperand depth (.tests [predicate]) predicate.tokens :=
    SpelledOperand.tests.mpr (.one predicate.spelled)
  have negated : SpelledOperand 128 (.not (.bracket _)) (.not :: .groupOpen :: (_ ++ [.groupClose])) :=
    ⟨_, rfl, _, rfl, (one (.compare "a" .contains "1") 126).spelledExpr⟩
  have spelled := SpelledExpr.of (.one
    (.adjacent negated (.one (one (.compare "b" .contains "\"x OR\"") 128)) nofun))
  have parsedFirst : parse "not (a:1) b:\"x OR\"" = .ok _ :=
    parse_of_scans (isNot.spaced (inner.scans.grouped.spaced quoted.scans)) spelled
  have parsedSecond : parse "c:[1 TO 2]" = .ok _ :=
    parse_of_scans range.scans (one (.between "c" "1" "2") 128).spelledExpr
  obtain ⟨either, both, group, negation⟩ := parse_composes parsedFirst parsedSecond
  exact ⟨_, _, parsedFirst, parsedSecond, rfl, rfl, either, both rfl rfl, group (by decide),
    negation (by decide)⟩

end MediaSearch.Query
