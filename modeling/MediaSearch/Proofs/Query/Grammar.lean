import MediaSearch.Proofs.Query.Acceptance

set_option autoImplicit false

/-!
The grammar of queries as it is documented, without trees. It derives a row of tests in many ways, of
which the parser takes one; a query is accepted if and only if its tokens can be derived.
-/

namespace MediaSearch.Query

inductive Symbol where
  | orExpr
  | andExpr
  | unary
  | primary
  | predicate
  deriving DecidableEq, Repr

-- In a derivation from `symbol` at `depth`, at most so many negations and groups lie inside one
-- another.
inductive Derives : Symbol → Nat → List Token → Prop
  -- or_expr → and_expr ("OR" and_expr)*
  | orExpr {depth : Nat} {first : List Token} {others : List (List Token)}
      (head : Derives .andExpr depth first) (tail : ∀ other ∈ others, Derives .andExpr depth other) :
      Derives .orExpr depth (first ++ others.flatMap (.or :: ·))
  -- and_expr → unary (["AND"] unary)*, where a flag says whether the word is there
  | andExpr {depth : Nat} {first : List Token} {others : List (Bool × List Token)}
      (head : Derives .unary depth first) (tail : ∀ other ∈ others, Derives .unary depth other.2) :
      Derives .andExpr depth
        (first ++ others.flatMap fun other => (if other.1 then [.and] else []) ++ other.2)
  -- unary → "NOT" unary | primary
  | negation {depth : Nat} {tokens : List Token} (operand : Derives .unary depth tokens) :
      Derives .unary (depth + 1) (.not :: tokens)
  | primary {depth : Nat} {tokens : List Token} (primary : Derives .primary depth tokens) :
      Derives .unary depth tokens
  -- primary → "(" or_expr ")" | predicate+
  | group {depth : Nat} {tokens : List Token} (inner : Derives .orExpr depth tokens) :
      Derives .primary (depth + 1) (.groupOpen :: (tokens ++ [.groupClose]))
  | tests {depth : Nat} {tests : List (List Token)} (nonempty : tests ≠ [])
      (each : ∀ test ∈ tests, Derives .predicate depth test) : Derives .primary depth tests.flatten
  -- predicate → FIELD OP VALUE | FIELD (":" | "=") "[" VALUE "TO" VALUE "]"
  | compare {depth : Nat} (field : String) (op : Operator) (value : String) :
      Derives .predicate depth [.field field, .operator op, .value value]
  | between {depth : Nat} (field low high : String) {op : Operator}
      (range : op = .contains ∨ op = .exactly) :
      Derives .predicate depth
        [.field field, .operator op, .rangeOpen, .value low, .to, .value high, .rangeClose]

section Derived

variable {depth : Nat} {tokens others : List Token}

theorem takesRange_iff {op : Operator} : takesRange op = true ↔ op = .contains ∨ op = .exactly := by
  cases op <;> simp [takesRange]

theorem SpelledTest.derives {predicate : Predicate} (test : SpelledTest predicate tokens) :
    Derives .predicate depth tokens := by
  cases test with
  | compare field op value => exact .compare field op value
  | between field low high range => exact .between field low high (takesRange_iff.mp range)

theorem SpelledTests.derives {predicates : List Predicate} (tests : SpelledTests predicates tokens) :
    Derives .primary depth tokens := by
  -- a list of tests is never empty, but a derivation names its rows
  suffices rows : ∃ rows : List (List Token), rows ≠ [] ∧
      (∀ row ∈ rows, Derives .predicate depth row) ∧ rows.flatten = tokens by
    obtain ⟨rows, nonempty, each, rfl⟩ := rows
    exact .tests nonempty each
  induction tests with
  | one test => exact ⟨[_], by simp, by simpa using test.derives, by simp⟩
  | @more _ _ tokens _ test _ ih =>
    obtain ⟨rows, _, each, rfl⟩ := ih
    refine ⟨tokens :: rows, by simp, ?_, by simp⟩
    exact List.forall_mem_cons.mpr ⟨test.derives, each⟩

theorem Derives.andOne (only : Derives .unary depth tokens) : Derives .andExpr depth tokens := by
  have none : ∀ other ∈ ([] : List (Bool × List Token)), Derives .unary depth other.2 := by simp
  simpa using Derives.andExpr only none

theorem Derives.andMore (head : Derives .unary depth tokens) (tail : Derives .andExpr depth others)
    (word : Bool) : Derives .andExpr depth (tokens ++ ((if word then [.and] else []) ++ others)) := by
  cases tail with
  | @andExpr _ first rest second each =>
    have all : ∀ other ∈ (word, first) :: rest, Derives .unary depth other.2 :=
      List.forall_mem_cons.mpr ⟨second, each⟩
    simpa using Derives.andExpr head all

theorem Derives.orOne (only : Derives .andExpr depth tokens) : Derives .orExpr depth tokens := by
  have none : ∀ other ∈ ([] : List (List Token)), Derives .andExpr depth other := by simp
  simpa using Derives.orExpr only none

theorem Derives.orMore (head : Derives .andExpr depth tokens) (tail : Derives .orExpr depth others) :
    Derives .orExpr depth (tokens ++ .or :: others) := by
  cases tail with
  | @orExpr _ first rest second each =>
    have all : ∀ other ∈ first :: rest, Derives .andExpr depth other :=
      List.forall_mem_cons.mpr ⟨second, each⟩
    simpa using Derives.orExpr head all

section Operands

variable {Operand : Expr → List Token → Prop}
  (derived : ∀ expr tokens, Operand expr tokens → Derives .unary depth tokens)

include derived

theorem SpelledOperands.derives {exprs : List Expr} (operands : SpelledOperands Operand exprs tokens) :
    Derives .andExpr depth tokens := by
  induction operands with
  | one operand => exact (derived _ _ operand).andOne
  | joined operand _ ih => exact (derived _ _ operand).andMore ih true
  | adjacent operand _ _ ih => exact (derived _ _ operand).andMore ih false

theorem SpelledExpr.derives {expr : Expr} (spelled : SpelledExpr Operand expr tokens) :
    Derives .orExpr depth tokens := by
  obtain ⟨alternatives⟩ := spelled
  induction alternatives with
  | one operands => exact (operands.derives derived).orOne
  | more operands _ ih => exact (operands.derives derived).orMore ih

end Operands

theorem SpelledOperand.derives (depth : Nat) (expr : Expr) (tokens : List Token)
    (operand : SpelledOperand depth expr tokens) : Derives .unary depth tokens := by
  induction depth generalizing expr tokens with
  | zero =>
    cases expr with
    | tests predicates => exact .primary (SpelledOperand.tests.mp operand).derives
    | _ => cases operand
  | succ depth ih =>
    cases expr with
    | tests predicates => exact .primary (SpelledOperand.tests.mp operand).derives
    | not inner =>
      obtain ⟨inside, rfl, spelled⟩ := operand
      exact .negation (ih inner inside spelled)
    | bracket inner =>
      obtain ⟨inside, rfl, spelled⟩ := operand
      exact .primary (.group (spelled.derives ih))
    | or _ => cases operand
    | and _ => cases operand

end Derived

section Spelled

variable {depth : Nat} {tokens others : List Token}

def Expr.withTests (more : List Predicate) : Expr → Expr
  | .tests predicates => .tests (predicates ++ more)
  | .not operand => .not (operand.withTests more)
  | expr => expr

theorem SpelledTests.append {predicates more : List Predicate}
    (tests : SpelledTests predicates tokens) (testsMore : SpelledTests more others) :
    SpelledTests (predicates ++ more) (tokens ++ others) := by
  induction tests with
  | one test => exact .more test testsMore
  | more test _ ih =>
    rw [List.append_assoc]
    exact .more test ih

theorem SpelledOperand.withTests {expr : Expr} {more : List Predicate}
    (operand : SpelledOperand depth expr tokens) (ends : expr.endsInTests = true)
    (tests : SpelledTests more others) :
    SpelledOperand depth (expr.withTests more) (tokens ++ others) := by
  induction depth generalizing expr tokens with
  | zero =>
    cases expr with
    | tests predicates => exact (SpelledOperand.tests.mp operand).append tests
    | _ => cases operand
  | succ depth ih =>
    cases expr with
    | tests predicates => exact (SpelledOperand.tests.mp operand).append tests
    | not inner =>
      obtain ⟨inside, rfl, spelled⟩ := operand
      exact ⟨inside ++ others, rfl, ih spelled ends⟩
    | _ => cases ends

theorem SpelledOperand.eq_tests {expr : Expr} (operand : SpelledOperand depth expr tokens)
    {more : List Token} (opens : opensTest (tokens ++ more) = true) :
    ∃ predicates, expr = .tests predicates ∧ SpelledTests predicates tokens := by
  unfold SpelledOperand at operand
  split at operand
  · exact ⟨_, rfl, operand⟩
  · obtain ⟨inner, rfl, -⟩ := operand
    cases opens
  · obtain ⟨inner, rfl, -⟩ := operand
    cases opens
  · exact operand.elim

-- A row of tests that goes on in the next operand takes that operand in.
theorem SpelledOperands.absorb {expr : Expr} {exprs : List Expr}
    (operand : SpelledOperand depth expr tokens) (ends : expr.endsInTests = true)
    (operands : SpelledOperands (SpelledOperand depth) exprs others)
    (opens : opensTest others = true) :
    ∃ merged, SpelledOperands (SpelledOperand depth) merged (tokens ++ others) := by
  cases operands with
  | one next =>
    rw [← List.append_nil others] at opens
    obtain ⟨predicates, rfl, tests⟩ := next.eq_tests opens
    exact ⟨_, .one (operand.withTests ends tests)⟩
  | joined next rest =>
    obtain ⟨predicates, rfl, tests⟩ := next.eq_tests opens
    rw [← List.append_assoc]
    exact ⟨_, .joined (operand.withTests ends tests) rest⟩
  | adjacent next rest apart =>
    obtain ⟨predicates, rfl, tests⟩ := next.eq_tests opens
    rw [← List.append_assoc]
    exact ⟨_, .adjacent (operand.withTests ends tests) rest fun _ => apart rfl⟩

theorem SpelledOperands.prepend {expr : Expr} {exprs : List Expr}
    (operand : SpelledOperand depth expr tokens)
    (operands : SpelledOperands (SpelledOperand depth) exprs others) (word : Bool) :
    ∃ merged, SpelledOperands (SpelledOperand depth) merged
      (tokens ++ ((if word then [.and] else []) ++ others)) := by
  cases word with
  | true => exact ⟨_, .joined operand operands⟩
  | false =>
    by_cases goesOn : expr.endsInTests = true ∧ opensTest others = true
    · exact operands.absorb operand goesOn.1 goesOn.2
    · exact ⟨_, .adjacent operand operands fun ends => by simpa [ends] using goesOn⟩

def Spells : Symbol → Nat → List Token → Prop
  | .orExpr, depth, tokens => ∃ expr, SpelledExpr (SpelledOperand depth) expr tokens
  | .andExpr, depth, tokens => ∃ exprs, SpelledOperands (SpelledOperand depth) exprs tokens
  | .unary, depth, tokens | .primary, depth, tokens => ∃ expr, SpelledOperand depth expr tokens
  | .predicate, _, tokens => ∃ predicate, SpelledTest predicate tokens

theorem spells_orExpr {first : List Token} {others : List (List Token)}
    (head : Spells .andExpr depth first) (tail : ∀ other ∈ others, Spells .andExpr depth other) :
    Spells .orExpr depth (first ++ others.flatMap (.or :: ·)) := by
  suffices alternatives : ∃ exprs, SpelledAlternatives (SpelledOperand depth) exprs
      (first ++ others.flatMap (.or :: ·)) by
    obtain ⟨exprs, spelled⟩ := alternatives
    exact ⟨_, .of spelled⟩
  induction others generalizing first with
  | nil =>
    obtain ⟨exprs, operands⟩ := head
    exact ⟨_, by simpa using SpelledAlternatives.one operands⟩
  | cons second rest ih =>
    obtain ⟨headNext, tailNext⟩ := List.forall_mem_cons.mp tail
    obtain ⟨exprs, operands⟩ := head
    obtain ⟨alternatives, spelled⟩ := ih headNext tailNext
    exact ⟨_, .more operands spelled⟩

theorem spells_andExpr {first : List Token} {others : List (Bool × List Token)}
    (head : Spells .unary depth first) (tail : ∀ other ∈ others, Spells .unary depth other.2) :
    Spells .andExpr depth
      (first ++ others.flatMap fun other => (if other.1 then [.and] else []) ++ other.2) := by
  induction others generalizing first with
  | nil =>
    obtain ⟨expr, operand⟩ := head
    exact ⟨_, by simpa using SpelledOperands.one operand⟩
  | cons second rest ih =>
    obtain ⟨headNext, tailNext⟩ := List.forall_mem_cons.mp tail
    obtain ⟨expr, operand⟩ := head
    obtain ⟨exprs, operands⟩ := ih headNext tailNext
    rw [List.flatMap_cons, List.append_assoc]
    exact operands.prepend operand second.1

theorem spells_tests {rows : List (List Token)} (nonempty : rows ≠ [])
    (each : ∀ row ∈ rows, Spells .predicate depth row) : Spells .primary depth rows.flatten := by
  suffices tests : ∃ predicates, SpelledTests predicates rows.flatten by
    obtain ⟨predicates, spelled⟩ := tests
    exact ⟨.tests predicates, SpelledOperand.tests.mpr spelled⟩
  induction rows with
  | nil => exact absurd rfl nonempty
  | cons row rows ih =>
    obtain ⟨⟨predicate, test⟩, others⟩ := List.forall_mem_cons.mp each
    cases rows with
    | nil => exact ⟨_, by simpa using SpelledTests.one test⟩
    | cons second rows =>
      obtain ⟨predicates, tests⟩ := ih (by simp) others
      exact ⟨_, .more test tests⟩

theorem Derives.spells {symbol : Symbol} (derived : Derives symbol depth tokens) :
    Spells symbol depth tokens := by
  induction derived with
  | orExpr _ _ head tail => exact spells_orExpr head tail
  | andExpr _ _ head tail => exact spells_andExpr head tail
  | negation _ ih =>
    obtain ⟨expr, operand⟩ := ih
    exact ⟨.not expr, _, rfl, operand⟩
  | primary _ ih => exact ih
  | group _ ih =>
    obtain ⟨expr, inner⟩ := ih
    exact ⟨.bracket expr, _, rfl, inner⟩
  | tests nonempty _ ih => exact spells_tests nonempty ih
  | compare field op value => exact ⟨_, .compare field op value⟩
  | between field low high range => exact ⟨_, .between field low high (takesRange_iff.mpr range)⟩

end Spelled

theorem parse_accepts_iff_derives (input : String) :
    (∃ expr, parse input = .ok expr) ↔
      ∃ lexemes, tokenize input = .ok lexemes ∧
        Derives .orExpr 128 (lexemes.map Lexeme.token) := by
  constructor
  · rintro ⟨expr, parsed⟩
    obtain ⟨lexemes, scanned, spelled⟩ := parse_eq_ok_iff.mp parsed
    exact ⟨lexemes, scanned, spelled.derives (SpelledOperand.derives maxDepth)⟩
  · rintro ⟨lexemes, scanned, derived⟩
    obtain ⟨expr, spelled⟩ := derived.spells
    exact ⟨expr, parse_eq_ok_iff.mpr ⟨lexemes, scanned, spelled⟩⟩

end MediaSearch.Query
