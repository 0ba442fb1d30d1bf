import MediaSearch.Proofs.Query.Acceptance
import MediaSearch.Proofs.Query.Blocks
import MediaSearch.Proofs.Query.RoundTrip

set_option autoImplicit false

namespace MediaSearch.Query

variable {tokens after : List Token}

theorem Blocks.ofMark {token : Token} (member : token ∈ marks) (blocks : Blocks (token :: after)) :
    Blocks after := by
  generalize whole : token :: after = tokens at blocks
  cases blocks with
  | none => cases whole
  | more first rest =>
    cases first with
    | mark _ =>
      cases whole
      exact rest
    | test named follows =>
      cases whole
      simp [marks] at member

theorem isBound_of_parts {inside others : List Token} {low high : String}
    (parts : ∀ token ∈ inside, IsRangePart token)
    (same : [.value low, .to, .value high, .rangeClose] ++ after = inside ++ [.rangeClose] ++ others) :
    IsBound low.toList ∧ IsBound high.toList ∧ after = others := by
  have noClose : Token.rangeClose ∉ inside := fun member => by
    rcases parts _ member with isTo | ⟨_, isValue, -⟩
    · cases isTo
    · cases isValue
  match inside with
  | [] => simp at same
  | [_] => simp at same
  | [_, _] => simp at same
  | [first, second, third] =>
    simp only [List.cons_append, List.nil_append, List.cons.injEq] at same
    obtain ⟨rfl, rfl, rfl, -, rfl⟩ := same
    have bound {text : String} (member : Token.value text ∈ [.value low, .to, .value high]) :
        IsBound text.toList := by
      rcases parts _ member with isTo | ⟨_, isValue, bound⟩
      · cases isTo
      · cases isValue
        exact bound
    exact ⟨bound (by simp), bound (by simp), rfl⟩
  | _ :: _ :: _ :: fourth :: rest =>
    simp only [List.cons_append, List.nil_append, List.cons.injEq] at same
    obtain ⟨-, -, -, rfl, -⟩ := same
    exact absurd (by simp) noClose

theorem SpelledTest.canonical {predicate : Predicate} (test : SpelledTest predicate tokens)
    (blocks : Blocks (tokens ++ after)) : predicate.Canonical ∧ Blocks after := by
  generalize whole : tokens ++ after = all at blocks
  cases blocks with
  | none => cases test <;> cases whole
  | more first rest =>
    cases first with
    | mark member => cases test <;> (cases whole; simp [marks] at member)
    | test named follows =>
      cases test with
      | compare field op value =>
        cases follows with
        | value written =>
          cases whole
          exact ⟨⟨named, written⟩, rest⟩
        | range parts => cases whole
      | between field low high range =>
        cases follows with
        | value written => cases whole
        | range parts =>
          simp only [List.cons_append, List.cons.injEq, Token.field.injEq] at whole
          obtain ⟨rfl, -, -, same⟩ := whole
          obtain ⟨isLow, isHigh, rfl⟩ := isBound_of_parts parts same
          exact ⟨⟨named, isLow, isHigh⟩, rest⟩

theorem SpelledTests.canonical {predicates : List Predicate} (tests : SpelledTests predicates tokens)
    (blocks : Blocks (tokens ++ after)) : (Expr.tests predicates).Canonical ∧ Blocks after := by
  induction tests with
  | one test =>
    obtain ⟨canonical, rest⟩ := test.canonical blocks
    exact ⟨.tests (by simp) (List.forall_mem_singleton.mpr canonical), rest⟩
  | more test tests ih =>
    rw [List.append_assoc] at blocks
    obtain ⟨canonical, rest⟩ := test.canonical blocks
    obtain ⟨row, final⟩ := ih rest
    cases row with
    | tests _ each => exact ⟨.tests (by simp) (List.forall_mem_cons.mpr ⟨canonical, each⟩), final⟩

namespace Expr

theorem depthAll_le {depth : Nat} {operands : List Expr}
    (shallow : ∀ operand ∈ operands, operand.depth ≤ depth) : depthAll operands ≤ depth := by
  induction operands with
  | nil => exact Nat.zero_le depth
  | cons operand operands ih =>
    obtain ⟨first, others⟩ := List.forall_mem_cons.mp shallow
    exact Nat.max_le.mpr ⟨first, ih others⟩

structure CanonicalOperand (depth : Nat) (expr : Expr) : Prop where
  canonical : expr.Canonical
  unary : expr.isUnary = true
  shallow : expr.depth ≤ depth

structure CanonicalAlternative (depth : Nat) (expr : Expr) : Prop where
  canonical : expr.Canonical
  notOr : expr.isOr = false
  shallow : expr.depth ≤ depth

theorem isOr_of_isUnary {expr : Expr} (unary : expr.isUnary = true) : expr.isOr = false := by
  cases expr with
  | or operands => cases unary
  | _ => rfl

theorem canonicalAlternative_allOf {depth : Nat} {operands : List Expr} (nonempty : operands ≠ [])
    (each : ∀ operand ∈ operands, operand.CanonicalOperand depth) :
    (allOf operands).CanonicalAlternative depth := by
  match operands with
  | [] => exact absurd rfl nonempty
  | [operand] =>
    obtain ⟨canonical, unary, shallow⟩ := each operand (by simp)
    exact ⟨canonical, isOr_of_isUnary unary, shallow⟩
  | first :: second :: others =>
    constructor
    case canonical =>
      exact .and (by simp) (fun operand member => (each operand member).unary)
        fun operand member => (each operand member).canonical
    case notOr => rfl
    case shallow => exact depthAll_le fun operand member => (each operand member).shallow

theorem canonical_anyOf {depth : Nat} {alternatives : List Expr} (nonempty : alternatives ≠ [])
    (each : ∀ alternative ∈ alternatives, alternative.CanonicalAlternative depth) :
    (anyOf alternatives).Canonical ∧ (anyOf alternatives).depth ≤ depth := by
  match alternatives with
  | [] => exact absurd rfl nonempty
  | [alternative] =>
    obtain ⟨canonical, -, shallow⟩ := each alternative (by simp)
    exact ⟨canonical, shallow⟩
  | first :: second :: others =>
    constructor
    · exact .or (by simp) (fun alternative member => (each alternative member).notOr)
        fun alternative member => (each alternative member).canonical
    · exact depthAll_le fun alternative member => (each alternative member).shallow

end Expr

section Operands

variable {depth : Nat} {Operand : Expr → List Token → Prop}
  (operandCanonical : ∀ expr tokens after, Operand expr tokens → Blocks (tokens ++ after) →
    expr.CanonicalOperand depth ∧ Blocks after)

include operandCanonical

theorem SpelledOperands.canonical {exprs : List Expr} (operands : SpelledOperands Operand exprs tokens)
    (blocks : Blocks (tokens ++ after)) :
    exprs ≠ [] ∧ (∀ expr ∈ exprs, expr.CanonicalOperand depth) ∧ Blocks after := by
  induction operands with
  | one operand =>
    obtain ⟨canonical, rest⟩ := operandCanonical _ _ _ operand blocks
    exact ⟨by simp, List.forall_mem_singleton.mpr canonical, rest⟩
  | joined operand _ ih =>
    rw [List.append_assoc] at blocks
    obtain ⟨canonical, rest⟩ := operandCanonical _ _ _ operand blocks
    obtain ⟨-, others, final⟩ := ih (rest.ofMark (by decide))
    exact ⟨by simp, List.forall_mem_cons.mpr ⟨canonical, others⟩, final⟩
  | adjacent operand _ _ ih =>
    rw [List.append_assoc] at blocks
    obtain ⟨canonical, rest⟩ := operandCanonical _ _ _ operand blocks
    obtain ⟨-, others, final⟩ := ih rest
    exact ⟨by simp, List.forall_mem_cons.mpr ⟨canonical, others⟩, final⟩

theorem SpelledAlternatives.canonical {exprs : List Expr}
    (alternatives : SpelledAlternatives Operand exprs tokens) (blocks : Blocks (tokens ++ after)) :
    exprs ≠ [] ∧ (∀ expr ∈ exprs, expr.CanonicalAlternative depth) ∧ Blocks after := by
  induction alternatives with
  | one operands =>
    obtain ⟨nonempty, each, rest⟩ := operands.canonical operandCanonical blocks
    have only := Expr.canonicalAlternative_allOf nonempty each
    exact ⟨by simp, List.forall_mem_singleton.mpr only, rest⟩
  | more operands _ ih =>
    rw [List.append_assoc] at blocks
    obtain ⟨nonempty, each, rest⟩ := operands.canonical operandCanonical blocks
    have first := Expr.canonicalAlternative_allOf nonempty each
    obtain ⟨-, others, final⟩ := ih (rest.ofMark (by decide))
    exact ⟨by simp, List.forall_mem_cons.mpr ⟨first, others⟩, final⟩

theorem SpelledExpr.canonical {expr : Expr} (spelled : SpelledExpr Operand expr tokens)
    (blocks : Blocks (tokens ++ after)) : (expr.Canonical ∧ expr.depth ≤ depth) ∧ Blocks after := by
  obtain ⟨alternatives⟩ := spelled
  obtain ⟨nonempty, each, rest⟩ := alternatives.canonical operandCanonical blocks
  exact ⟨Expr.canonical_anyOf nonempty each, rest⟩

end Operands

theorem SpelledTests.canonicalOperand {depth : Nat} {predicates : List Predicate}
    (tests : SpelledTests predicates tokens) (blocks : Blocks (tokens ++ after)) :
    (Expr.tests predicates).CanonicalOperand depth ∧ Blocks after := by
  obtain ⟨canonical, rest⟩ := tests.canonical blocks
  exact ⟨⟨canonical, rfl, Nat.zero_le depth⟩, rest⟩

theorem SpelledOperand.canonical (depth : Nat) (expr : Expr) (tokens after : List Token)
    (operand : SpelledOperand depth expr tokens) (blocks : Blocks (tokens ++ after)) :
    expr.CanonicalOperand depth ∧ Blocks after := by
  induction depth generalizing expr tokens after with
  | zero =>
    cases expr with
    | tests predicates => exact (SpelledOperand.tests.mp operand).canonicalOperand blocks
    | _ => cases operand
  | succ depth ih =>
    cases expr with
    | tests predicates => exact (SpelledOperand.tests.mp operand).canonicalOperand blocks
    | not inner =>
      obtain ⟨inside, rfl, spelled⟩ := operand
      obtain ⟨⟨canonical, unary, shallow⟩, rest⟩ :=
        ih inner inside after spelled (blocks.ofMark (by decide))
      exact ⟨⟨.not unary canonical, rfl, Nat.succ_le_succ shallow⟩, rest⟩
    | bracket inner =>
      obtain ⟨inside, rfl, spelled⟩ := operand
      have within : Blocks (inside ++ .groupClose :: after) := by
        simpa using Blocks.ofMark (by decide) blocks
      obtain ⟨⟨canonical, shallow⟩, rest⟩ := spelled.canonical ih within
      exact ⟨⟨.bracket canonical, rfl, Nat.succ_le_succ shallow⟩, rest.ofMark (by decide)⟩
    | or _ => cases operand
    | and _ => cases operand

theorem parse_canonical {input : String} {expr : Expr} (parsed : parse input = .ok expr) :
    expr.Canonical ∧ expr.depth ≤ 128 := by
  obtain ⟨lexemes, scanned, spelled⟩ := parse_eq_ok_iff.mp parsed
  have blocks : Blocks (lexemes.map Lexeme.token ++ []) := by
    simpa using tokenize_blocks scanned
  exact (spelled.canonical (SpelledOperand.canonical maxDepth) blocks).1

theorem parse_canonical_adjacent :
    ∃ expr : Expr, parse "not (year<5 or title:\"a b\") x:y" = .ok expr ∧
      expr = .and
        [.not (.bracket (.or
          [.tests [.compare "year" .less "5"], .tests [.compare "title" .contains "\"a b\""]])),
         .tests [.compare "x" .contains "y"]] ∧
      expr.Canonical ∧ expr.depth ≤ 128 := by
  have year : Predicate.Canonical (.compare "year" .less "5") :=
    ⟨⟨by decide, forall_chars (by decide)⟩,
      .inr ⟨by decide, forall_chars (by decide), by decide, by decide, by decide⟩⟩
  have title : Predicate.Canonical (.compare "title" .contains "\"a b\"") :=
    ⟨⟨by decide, forall_chars (by decide)⟩, .inl ⟨"a b".toList, by decide, by decide⟩⟩
  have last : Predicate.Canonical (.compare "x" .contains "y") :=
    ⟨⟨by decide, forall_chars (by decide)⟩,
      .inr ⟨by decide, forall_chars (by decide), by decide, by decide, by decide⟩⟩
  have isNot : Scans "not".toList [.not] :=
    scans_keyword (by decide) (forall_chars (by decide)) (by decide)
  have isOr : Scans "or".toList [.or] :=
    scans_keyword (by decide) (forall_chars (by decide)) (by decide)
  have scans := isNot.spaced ((year.scans.spaced (isOr.spaced title.scans)).grouped.spaced last.scans)
  have one (predicate : Predicate) (depth : Nat) :
      SpelledOperands (SpelledOperand depth) [.tests [predicate]] predicate.tokens :=
    .one (SpelledOperand.tests.mpr (.one predicate.spelled))
  have inner := SpelledExpr.of (.more (one (.compare "year" .less "5") 126)
    (.one (one (.compare "title" .contains "\"a b\"") 126)))
  have negated : SpelledOperand 128 (.not (.bracket _)) (.not :: .groupOpen :: (_ ++ [.groupClose])) :=
    ⟨_, rfl, _, rfl, inner⟩
  have spelled := SpelledExpr.of (.one (.adjacent negated (one (.compare "x" .contains "y") 128) nofun))
  have parsed : parse "not (year<5 or title:\"a b\") x:y" = .ok _ := parse_of_scans scans spelled
  exact ⟨_, parsed, rfl, parse_canonical parsed⟩

end MediaSearch.Query
