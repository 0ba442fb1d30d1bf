import MediaSearch.Proofs.Query.Scanning
import MediaSearch.Proofs.Query.Spelling

set_option autoImplicit false

namespace MediaSearch.Query

theorem IsQuoted.head {text : List Char} (quoted : IsQuoted text) : text.head? = some '"' := by
  obtain ⟨inner, rfl, -⟩ := quoted
  rfl

theorem Predicate.Canonical.scans {predicate : Predicate} (canonical : predicate.Canonical) :
    Scans predicate.render.toList predicate.tokens := by
  cases predicate with
  | compare field op value =>
    obtain ⟨isField, quoted | bare⟩ := canonical
    · have apart : op = .less ∨ op = .greater → value.toList.head? ≠ some '=' := by
        simp [quoted.head]
      have nonempty : value.toList ≠ [] := fun empty => by simpa [empty] using quoted.head
      have test := scans_test isField apart nonempty (scansOperand_quoted quoted)
      simpa [Predicate.render, Predicate.tokens] using test
    · have test := scans_test isField bare.noEqual bare.nonempty (scansOperand_bare bare)
      simpa [Predicate.render, Predicate.tokens] using test
  | between field low high =>
    obtain ⟨isField, lowBound, highBound⟩ := canonical
    have apart : Operator.contains = .less ∨ Operator.contains = .greater →
        ('[' :: (low.toList ++ " TO ".toList ++ high.toList ++ [']'])).head? ≠ some '=' := by simp
    have test := scans_test isField apart (by simp) (scansOperand_range lowBound highBound)
    simpa [Predicate.render, Predicate.tokens, Operator.symbol] using test

theorem nil_intercalate {α : Type} (lists : List (List α)) : [].intercalate lists = lists.flatten := by
  induction lists with
  | nil => rfl
  | cons first rest ih =>
    cases rest with
    | nil => simp
    | cons second rest => simp [ih]

theorem Scans.joined {word : List Char} {token : Token} (keyword : Scans word [token])
    {text other : List Char} {tokens others : List Token} (scans : Scans text tokens)
    (scansOther : Scans other others) :
    Scans (text ++ (' ' :: (word ++ [' '])) ++ other) (tokens ++ [token] ++ others) := by
  simpa using scans.spaced (keyword.spaced scansOther)

theorem Expr.Canonical.scans {expr : Expr} (canonical : expr.Canonical) :
    Scans expr.render.toList expr.tokens := by
  induction canonical with
  | or several _ _ ih =>
    have keyword : Scans "OR".toList [.or] :=
      scans_keyword (by decide) (forall_chars (by decide)) (by decide)
    have joined := Scans.intercalate keyword.joined (List.ne_nil_of_length_pos (by omega)) ih
    simpa [render, renderAll_eq_map, tokens, tokensAll_eq_map, Function.comp_def] using joined
  | and several _ _ ih =>
    have keyword : Scans "AND".toList [.and] :=
      scans_keyword (by decide) (forall_chars (by decide)) (by decide)
    have joined := Scans.intercalate keyword.joined (List.ne_nil_of_length_pos (by omega)) ih
    simpa [render, renderAll_eq_map, tokens, tokensAll_eq_map, Function.comp_def] using joined
  | not _ _ ih =>
    have keyword : Scans "NOT".toList [.not] :=
      scans_keyword (by decide) (forall_chars (by decide)) (by decide)
    simpa [render, tokens] using keyword.spaced ih
  | bracket _ ih => simpa [render, tokens] using ih.grouped
  | tests nonempty each =>
    have spaced {text other : List Char} {tokens others : List Token} (scans : Scans text tokens)
        (scansOther : Scans other others) :
        Scans (text ++ [' '] ++ other) (tokens ++ [] ++ others) := by
      simpa using scans.spaced scansOther
    have joined := Scans.intercalate spaced nonempty fun predicate member => (each predicate member).scans
    simpa [render, tokens, nil_intercalate, Function.comp_def, List.flatMap_def] using joined

theorem Predicate.spelled (predicate : Predicate) : SpelledTest predicate predicate.tokens := by
  cases predicate with
  | compare field op value => exact .compare field op value
  | between field low high => exact .between field low high rfl

theorem spelledTests {predicates : List Predicate} (nonempty : predicates ≠ []) :
    SpelledTests predicates (predicates.flatMap Predicate.tokens) := by
  induction predicates with
  | nil => exact absurd rfl nonempty
  | cons predicate predicates ih =>
    cases predicates with
    | nil => simpa using SpelledTests.one predicate.spelled
    | cons second predicates =>
      rw [List.flatMap_cons]
      exact .more predicate.spelled (ih (by simp))

section Spelled

variable {Operand : Expr → List Token → Prop}

theorem spelledOperands {exprs : List Expr} (nonempty : exprs ≠ [])
    (each : ∀ expr ∈ exprs, Operand expr expr.tokens) :
    SpelledOperands Operand exprs ([.and].intercalate (exprs.map Expr.tokens)) := by
  induction exprs with
  | nil => exact absurd rfl nonempty
  | cons expr exprs ih =>
    have first := each expr (by simp)
    cases exprs with
    | nil => simpa using SpelledOperands.one first
    | cons second exprs =>
      have others := ih (by simp) fun later member => each later (by simp [member])
      simpa using SpelledOperands.joined first others

def SpelledAlternative (Operand : Expr → List Token → Prop) (expr : Expr) : Prop :=
  ∃ exprs, Expr.allOf exprs = expr ∧ SpelledOperands Operand exprs expr.tokens

theorem spelledAlternatives {exprs : List Expr} (nonempty : exprs ≠ [])
    (each : ∀ expr ∈ exprs, SpelledAlternative Operand expr) :
    SpelledAlternatives Operand exprs ([.or].intercalate (exprs.map Expr.tokens)) := by
  induction exprs with
  | nil => exact absurd rfl nonempty
  | cons expr exprs ih =>
    obtain ⟨operands, stands, first⟩ := each expr (by simp)
    cases exprs with
    | nil => simpa [stands] using SpelledAlternatives.one first
    | cons second exprs =>
      have others := ih (by simp) fun later member => each later (by simp [member])
      simpa [stands] using SpelledAlternatives.more first others

theorem Expr.Canonical.spelledAlternative {expr : Expr} (canonical : expr.Canonical)
    (notOr : expr.isOr = false)
    (operands : ∀ operand : Expr, operand.Canonical → operand.isUnary = true →
      operand.depth ≤ expr.depth → Operand operand operand.tokens) :
    SpelledAlternative Operand expr := by
  cases canonical with
  | or => simp [isOr] at notOr
  | @and exprs several unary each =>
    refine ⟨exprs, ?_, ?_⟩
    · match exprs, several with
      | _ :: _ :: _, _ => rfl
    · rw [tokens, tokensAll_eq_map]
      exact spelledOperands (List.ne_nil_of_length_pos (by omega)) fun operand member =>
        operands operand (each operand member) (unary operand member) (depth_le_depthAll member)
  | not unary inner => exact ⟨[_], rfl, .one (operands _ (.not unary inner) rfl (Nat.le_refl _))⟩
  | bracket inner => exact ⟨[_], rfl, .one (operands _ (.bracket inner) rfl (Nat.le_refl _))⟩
  | tests nonempty each => exact ⟨[_], rfl, .one (operands _ (.tests nonempty each) rfl (Nat.le_refl _))⟩

theorem Expr.Canonical.spelledExpr {expr : Expr} (canonical : expr.Canonical)
    (operands : ∀ operand : Expr, operand.Canonical → operand.isUnary = true →
      operand.depth ≤ expr.depth → Operand operand operand.tokens) :
    SpelledExpr Operand expr expr.tokens := by
  cases isOr : expr.isOr with
  | false =>
    obtain ⟨exprs, stands, spelled⟩ := canonical.spelledAlternative isOr operands
    have alternatives := SpelledAlternatives.one spelled
    rw [stands] at alternatives
    exact .of alternatives
  | true =>
    cases canonical with
    | @or exprs several flat each =>
      have alternatives := spelledAlternatives (List.ne_nil_of_length_pos (by omega))
        fun alternative member =>
          (each alternative member).spelledAlternative (flat alternative member)
            fun operand canonicalOperand unary shallow =>
              operands operand canonicalOperand unary (Nat.le_trans shallow (depth_le_depthAll member))
      have spelled := SpelledExpr.of alternatives
      match exprs, several with
      | _ :: _ :: _, _ => simpa [anyOf, tokens, tokensAll_eq_map] using spelled
    | _ => simp [Expr.isOr] at isOr

end Spelled

theorem Expr.Canonical.spelledOperand {expr : Expr} {depth : Nat} (canonical : expr.Canonical)
    (unary : expr.isUnary = true) (shallow : expr.depth ≤ depth) :
    SpelledOperand depth expr expr.tokens := by
  induction depth generalizing expr with
  | zero =>
    cases canonical with
    | tests nonempty each => exact spelledTests nonempty
    | _ => simp [isUnary, Expr.depth] at unary shallow
  | succ depth ih =>
    cases canonical with
    | tests nonempty each => exact spelledTests nonempty
    | not unaryInner inner =>
      exact ⟨_, rfl, ih inner unaryInner (by simpa [Expr.depth] using shallow)⟩
    | bracket inner =>
      simp only [Expr.depth, Nat.add_le_add_iff_right] at shallow
      exact ⟨_, rfl, inner.spelledExpr fun operand canonicalOperand unaryOperand within =>
        ih canonicalOperand unaryOperand (Nat.le_trans within shallow)⟩
    | or | and => simp [isUnary] at unary

theorem Expr.Canonical.spelled {expr : Expr} (canonical : expr.Canonical)
    (shallow : expr.depth ≤ maxDepth) : SpelledExpr (SpelledOperand maxDepth) expr expr.tokens :=
  canonical.spelledExpr fun _ canonicalOperand unary within =>
    canonicalOperand.spelledOperand unary (Nat.le_trans within shallow)

theorem parse_of_scans {input : String} {tokens : List Token} {expr : Expr}
    (scans : Scans input.toList tokens)
    (spelled : SpelledExpr (SpelledOperand maxDepth) expr tokens) : parse input = .ok expr := by
  obtain ⟨lexemes, read, rfl⟩ := tokenize_of_scans scans
  rw [parse, read]
  simp only [parseTokens_of_spelled spelled]
  rfl

theorem parse_render {expr : Expr} (canonical : expr.Canonical) (shallow : expr.depth ≤ 128) :
    parse expr.render = .ok expr :=
  parse_of_scans canonical.scans (canonical.spelled shallow)

theorem parse_render_nested :
    parse "NOT (title:\"a (b OR\" OR NOT x<==5 year<>=2) AND year:[\"] TO\" TO (9] OR a_1~x[" =
      .ok (.or
        [.and
          [.not (.bracket (.or
            [.tests [.compare "title" .contains "\"a (b OR\""],
             .not (.tests [.compare "x" .atMost "=5", .compare "year" .less ">=2"])])),
           .tests [.between "year" "\"] TO\"" "(9"]],
         .tests [.compare "a_1" .regexp "x["]]) := by
  have both {P : Expr → Prop} {left right : Expr} (holdsLeft : P left) (holdsRight : P right) :
      ∀ expr ∈ [left, right], P expr :=
    List.forall_mem_cons.mpr ⟨holdsLeft, List.forall_mem_singleton.mpr holdsRight⟩
  have title : Predicate.Canonical (.compare "title" .contains "\"a (b OR\"") :=
    ⟨⟨by decide, forall_chars (by decide)⟩, .inl ⟨"a (b OR".toList, by decide, by decide⟩⟩
  have atMost : Predicate.Canonical (.compare "x" .atMost "=5") :=
    ⟨⟨by decide, forall_chars (by decide)⟩,
      .inr ⟨by decide, forall_chars (by decide), by decide, by decide, by decide⟩⟩
  have less : Predicate.Canonical (.compare "year" .less ">=2") :=
    ⟨⟨by decide, forall_chars (by decide)⟩,
      .inr ⟨by decide, forall_chars (by decide), by decide, by decide, by decide⟩⟩
  have range : Predicate.Canonical (.between "year" "\"] TO\"" "(9") :=
    ⟨⟨by decide, forall_chars (by decide)⟩, .inl ⟨"] TO".toList, by decide, by decide⟩,
      .inr ⟨by decide, forall_chars (by decide), by decide, by decide⟩⟩
  have regexp : Predicate.Canonical (.compare "a_1" .regexp "x[") :=
    ⟨⟨by decide, forall_chars (by decide)⟩,
      .inr ⟨by decide, forall_chars (by decide), by decide, by decide, by decide⟩⟩
  have inner : Expr.Canonical (.or
      [.tests [.compare "title" .contains "\"a (b OR\""],
       .not (.tests [.compare "x" .atMost "=5", .compare "year" .less ">=2"])]) :=
    .or (by decide) (both rfl rfl) (both (.tests (by simp) (List.forall_mem_singleton.mpr title))
      (.not rfl (.tests (by simp)
        (List.forall_mem_cons.mpr ⟨atMost, List.forall_mem_singleton.mpr less⟩))))
  have whole : Expr.Canonical (.or
      [.and
        [.not (.bracket (.or
          [.tests [.compare "title" .contains "\"a (b OR\""],
           .not (.tests [.compare "x" .atMost "=5", .compare "year" .less ">=2"])])),
         .tests [.between "year" "\"] TO\"" "(9"]],
       .tests [.compare "a_1" .regexp "x["]]) :=
    .or (by decide) (both rfl rfl)
      (both (.and (by decide) (both rfl rfl)
        (both (.not rfl (.bracket inner)) (.tests (by simp) (List.forall_mem_singleton.mpr range))))
        (.tests (by simp) (List.forall_mem_singleton.mpr regexp)))
  rw [← parse_render whole (by decide)]
  exact congrArg parse (by decide)

end MediaSearch.Query
