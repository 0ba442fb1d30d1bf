import MediaSearch.Proofs.Query.NormalForm

set_option autoImplicit false

/-!
An expression has the tokens of the query that it was read from, all of them and in their order. Two
things can be written in several ways and are compared in one: the word AND next to a group or before a
negation, which may be left out, and the operator before a range.
-/

namespace MediaSearch.Query

variable {left right tokens others : List Token}

-- Whether the word AND could as well be left out between these two tokens.
def Token.isOptional (before next : Option Token) : Token → Bool
  | .and => before == some .groupClose || next == some .not || next == some .groupOpen
  | _ => false

def Token.plainBefore (next : Option Token) : Token → Token
  | .operator op => if next = some .rangeOpen then .operator .contains else .operator op
  | token => token

def essentialFrom (before : Option Token) : List Token → List Token
  | [] => []
  | token :: rest =>
    if token.isOptional before rest.head? then essentialFrom (some token) rest
    else token.plainBefore rest.head? :: essentialFrom (some token) rest

def essential (tokens : List Token) : List Token := essentialFrom none tokens

-- Of what follows, a token is only affected by the next one.
theorem essentialFrom_congr (heads : left.head? = right.head?)
    (same : ∀ before, essentialFrom before left = essentialFrom before right) (first : List Token)
    (before : Option Token) : essentialFrom before (first ++ left) = essentialFrom before (first ++ right) := by
  induction first generalizing before with
  | nil => exact same before
  | cons token rest ih =>
    have next : (rest ++ left).head? = (rest ++ right).head? := by
      rw [List.head?_append, List.head?_append, heads]
    simp only [List.cons_append, essentialFrom, next, ih]

structure Alike (left right : List Token) : Prop where
  heads : left.head? = right.head?
  same : ∀ before after, essentialFrom before (left ++ after) = essentialFrom before (right ++ after)

namespace Alike

theorem refl (tokens : List Token) : Alike tokens tokens :=
  ⟨rfl, fun _ _ => rfl⟩

theorem trans {middle : List Token} (first : Alike left middle) (second : Alike middle right) :
    Alike left right :=
  ⟨first.heads.trans second.heads, fun before after => (first.same before after).trans (second.same before after)⟩

theorem append {left' right' : List Token} (first : Alike left right) (second : Alike left' right') :
    Alike (left ++ left') (right ++ right') := by
  constructor
  case heads => rw [List.head?_append, List.head?_append, first.heads, second.heads]
  case same =>
    intro before after
    have next : (left' ++ after).head? = (right' ++ after).head? := by
      rw [List.head?_append, List.head?_append, second.heads]
    calc essentialFrom before (left ++ left' ++ after)
        = essentialFrom before (right ++ (left' ++ after)) := by rw [List.append_assoc, first.same]
      _ = essentialFrom before (right ++ (right' ++ after)) :=
          essentialFrom_congr next (fun previous => second.same previous after) right before
      _ = essentialFrom before (right ++ right' ++ after) := by rw [List.append_assoc]

theorem cons (token : Token) (rest : Alike left right) : Alike (token :: left) (token :: right) :=
  (refl [token]).append rest

theorem essential_eq (alike : Alike left right) : essential left = essential right := by
  simpa [essential] using alike.same none []

end Alike

def Token.closesOperand : Token → Bool
  | .value _ | .rangeClose | .groupClose => true
  | _ => false

theorem essentialFrom_and {last : Token} (closes : last.closesOperand = true)
    (optional : last = .groupClose ∨ opensTest others = false) (opens : opensOperand others = true)
    (before : Option Token) :
    essentialFrom before (last :: others) = essentialFrom before (last :: .and :: others) := by
  cases others with
  | nil => cases opens
  | cons token rest =>
    have isOptional : Token.and.isOptional (some last) (some token) = true := by
      rcases optional with rfl | noTest
      · rfl
      · cases token <;> simp_all [Token.isOptional, opensTest, opensOperand]
    have notAnd (previous : Option Token) : token.isOptional previous rest.head? = false := by
      cases token <;> simp_all [Token.isOptional, opensOperand]
    have kept (next : Option Token) : last.isOptional before next = false ∧ last.plainBefore next = last := by
      cases last <;> simp_all [Token.isOptional, Token.plainBefore, Token.closesOperand]
    simp [essentialFrom, isOptional, notAnd, kept]

def EndsLike (expr : Expr) (tokens : List Token) : Prop :=
  ∃ front last, tokens = front ++ [last] ∧ last.closesOperand = true ∧
    (expr.endsInTests = false → last = .groupClose)

theorem Alike.and {expr : Expr} (ends : EndsLike expr tokens)
    (opens : ∀ more, opensOperand (others ++ more) = true)
    (apart : expr.endsInTests = true → opensTest others = false) :
    Alike (tokens ++ others) (tokens ++ .and :: others) := by
  obtain ⟨front, last, rfl, closes, inGroup⟩ := ends
  rw [List.append_assoc, List.append_assoc]
  apply (Alike.refl front).append
  constructor
  case heads => rfl
  case same =>
    intro before after
    have optional : last = .groupClose ∨ opensTest (others ++ after) = false := by
      cases tests : expr.endsInTests with
      | false => exact .inl (inGroup tests)
      | true =>
        rw [opensTest_append (by simpa using opens [])]
        exact .inr (apart tests)
    simpa using essentialFrom_and closes optional (opens after) before

theorem SpelledTest.alike {predicate : Predicate} (test : SpelledTest predicate tokens) :
    Alike tokens predicate.tokens := by
  cases test with
  | compare field op value => exact .refl _
  | between field low high range =>
    constructor
    case heads => rfl
    case same => simp [Predicate.tokens, essentialFrom, Token.isOptional, Token.plainBefore]

theorem SpelledTest.closes {predicate : Predicate} (test : SpelledTest predicate tokens) :
    ∃ front last, tokens = front ++ [last] ∧ last.closesOperand = true := by
  cases test with
  | compare field op value => exact ⟨[_, _], _, rfl, rfl⟩
  | between field low high range => exact ⟨[_, _, _, _, _, _], _, rfl, rfl⟩

theorem SpelledTests.alike {predicates : List Predicate} (tests : SpelledTests predicates tokens) :
    Alike tokens (predicates.flatMap Predicate.tokens) := by
  induction tests with
  | one test => simpa using test.alike
  | more test _ ih => exact test.alike.append ih

theorem SpelledTests.closes {predicates : List Predicate} (tests : SpelledTests predicates tokens) :
    ∃ front last, tokens = front ++ [last] ∧ last.closesOperand = true := by
  induction tests with
  | one test => exact test.closes
  | @more _ _ first _ _ _ ih =>
    obtain ⟨front, last, rfl, closes⟩ := ih
    exact ⟨first ++ front, last, by simp, closes⟩

theorem Expr.tokens_allOf (operands : List Expr) :
    (allOf operands).tokens = [.and].intercalate (operands.map Expr.tokens) := by
  rcases operands with _ | ⟨operand, _ | ⟨second, rest⟩⟩
  · rfl
  · simp [allOf]
  · simp [allOf, Expr.tokens, tokensAll_eq_map]

theorem Expr.tokens_anyOf (alternatives : List Expr) :
    (anyOf alternatives).tokens = [.or].intercalate (alternatives.map Expr.tokens) := by
  rcases alternatives with _ | ⟨alternative, _ | ⟨second, rest⟩⟩
  · rfl
  · simp [anyOf]
  · simp [anyOf, Expr.tokens, tokensAll_eq_map]

section Operands

variable {Operand : Expr → List Token → Prop}

structure KeepsTokens (Operand : Expr → List Token → Prop) : Prop where
  opens : ∀ expr tokens more, Operand expr tokens → opensOperand (tokens ++ more) = true
  ends : ∀ expr tokens, Operand expr tokens → EndsLike expr tokens
  alike : ∀ expr tokens, Operand expr tokens → Alike tokens expr.tokens

theorem SpelledOperands.ne_nil {exprs : List Expr} (operands : SpelledOperands Operand exprs tokens) :
    exprs ≠ [] := by
  cases operands <;> simp

theorem SpelledAlternatives.ne_nil {exprs : List Expr}
    (alternatives : SpelledAlternatives Operand exprs tokens) : exprs ≠ [] := by
  cases alternatives <;> simp

theorem intercalate_tokens {exprs : List Expr} (nonempty : exprs ≠ []) (word : Token) (expr : Expr) :
    [word].intercalate ((expr :: exprs).map Expr.tokens) =
      expr.tokens ++ word :: [word].intercalate (exprs.map Expr.tokens) := by
  rw [List.map_cons, List.intercalate_cons_of_ne_nil (by simpa using nonempty)]
  simp

theorem SpelledOperands.alike (keeps : KeepsTokens Operand) {exprs : List Expr}
    (operands : SpelledOperands Operand exprs tokens) :
    Alike tokens ([.and].intercalate (exprs.map Expr.tokens)) := by
  induction operands with
  | one operand => simpa using keeps.alike _ _ operand
  | joined operand operands ih =>
    rw [intercalate_tokens operands.ne_nil]
    exact (keeps.alike _ _ operand).append (ih.cons .and)
  | adjacent operand operands apart ih =>
    rw [intercalate_tokens operands.ne_nil]
    apply (Alike.and (keeps.ends _ _ operand) (operands.opens keeps.opens) apart).trans
    exact (keeps.alike _ _ operand).append (ih.cons .and)

theorem SpelledAlternatives.alike (keeps : KeepsTokens Operand) {exprs : List Expr}
    (alternatives : SpelledAlternatives Operand exprs tokens) :
    Alike tokens ([.or].intercalate (exprs.map Expr.tokens)) := by
  induction alternatives with
  | one operands => simpa [Expr.tokens_allOf] using operands.alike keeps
  | more operands rest ih =>
    rw [intercalate_tokens rest.ne_nil, Expr.tokens_allOf]
    exact (operands.alike keeps).append (ih.cons .or)

theorem SpelledExpr.alike (keeps : KeepsTokens Operand) {expr : Expr}
    (spelled : SpelledExpr Operand expr tokens) : Alike tokens expr.tokens := by
  obtain ⟨alternatives⟩ := spelled
  rw [Expr.tokens_anyOf]
  exact alternatives.alike keeps

end Operands

theorem SpelledTests.endsLike {predicates : List Predicate} (tests : SpelledTests predicates tokens) :
    EndsLike (.tests predicates) tokens := by
  obtain ⟨front, last, same, closes⟩ := tests.closes
  exact ⟨front, last, same, closes, nofun⟩

theorem SpelledOperand.endsLike {depth : Nat} {expr : Expr} (operand : SpelledOperand depth expr tokens) :
    EndsLike expr tokens := by
  induction depth generalizing expr tokens with
  | zero =>
    cases expr with
    | tests predicates => exact (SpelledOperand.tests.mp operand).endsLike
    | _ => cases operand
  | succ depth ih =>
    cases expr with
    | tests predicates => exact (SpelledOperand.tests.mp operand).endsLike
    | not inner =>
      obtain ⟨inside, rfl, spelled⟩ := operand
      obtain ⟨front, last, rfl, closes, inGroup⟩ := ih spelled
      exact ⟨.not :: front, last, rfl, closes, inGroup⟩
    | bracket inner =>
      obtain ⟨inside, rfl, spelled⟩ := operand
      exact ⟨.groupOpen :: inside, .groupClose, rfl, rfl, fun _ => rfl⟩
    | or _ => cases operand
    | and _ => cases operand

theorem SpelledOperand.keepsTokens (depth : Nat) : KeepsTokens (SpelledOperand depth) := by
  induction depth with
  | zero =>
    refine ⟨fun _ _ more operand => operand.opens more, fun _ _ operand => operand.endsLike, ?_⟩
    intro expr tokens operand
    cases expr with
    | tests predicates => exact (SpelledOperand.tests.mp operand).alike
    | _ => cases operand
  | succ depth ih =>
    refine ⟨fun _ _ more operand => operand.opens more, fun _ _ operand => operand.endsLike, ?_⟩
    intro expr tokens operand
    cases expr with
    | tests predicates => exact (SpelledOperand.tests.mp operand).alike
    | not inner =>
      obtain ⟨inside, rfl, spelled⟩ := operand
      exact (ih.alike inner inside spelled).cons .not
    | bracket inner =>
      obtain ⟨inside, rfl, spelled⟩ := operand
      exact ((spelled.alike ih).append (.refl [.groupClose])).cons .groupOpen
    | or _ => cases operand
    | and _ => cases operand

theorem parse_keeps_tokens {input : String} {expr : Expr} (parsed : parse input = .ok expr) :
    ∃ lexemes written, tokenize input = .ok lexemes ∧ tokenize expr.render = .ok written ∧
      written.map Lexeme.token = expr.tokens ∧
      essential (lexemes.map Lexeme.token) = essential (written.map Lexeme.token) := by
  obtain ⟨lexemes, scanned, spelled⟩ := parse_eq_ok_iff.mp parsed
  have blocks : Blocks (lexemes.map Lexeme.token ++ []) := by
    simpa using tokenize_blocks scanned
  obtain ⟨⟨canonical, -⟩, -⟩ := spelled.canonical (SpelledOperand.canonical maxDepth) blocks
  obtain ⟨written, scannedAgain, tokens⟩ := tokenize_of_scans canonical.scans
  have alike := spelled.alike (SpelledOperand.keepsTokens maxDepth)
  refine ⟨lexemes, written, scanned, scannedAgain, tokens, ?_⟩
  rw [tokens]
  exact alike.essential_eq

theorem parse_keeps_tokens_adjacent :
    ∃ expr lexemes written, parse "x=[1 TO 2] (y:z)" = .ok expr ∧
      tokenize "x=[1 TO 2] (y:z)" = .ok lexemes ∧ expr.render = "x:[1 TO 2] AND (y:z)" ∧
      tokenize expr.render = .ok written ∧ written.map Lexeme.token = expr.tokens ∧
      essential (lexemes.map Lexeme.token) = essential (written.map Lexeme.token) := by
  have range : ScansOperand "[1 TO 2]".toList [.rangeOpen, .value "1", .to, .value "2", .rangeClose] :=
    scansOperand_range (.inr ⟨by decide, forall_chars (by decide), by decide, by decide⟩)
      (.inr ⟨by decide, forall_chars (by decide), by decide, by decide⟩)
  have within : Scans "x=[1 TO 2]".toList
      [.field "x", .operator .exactly, .rangeOpen, .value "1", .to, .value "2", .rangeClose] :=
    scans_test ⟨by decide, forall_chars (by decide)⟩ (by simp) (by decide) range
  have test : Predicate.Canonical (.compare "y" .contains "z") :=
    ⟨⟨by decide, forall_chars (by decide)⟩,
      .inr ⟨by decide, forall_chars (by decide), by decide, by decide, by decide⟩⟩
  have between : SpelledTest (.between "x" "1" "2")
      [.field "x", .operator .exactly, .rangeOpen, .value "1", .to, .value "2", .rangeClose] :=
    .between "x" "1" "2" rfl
  have row {predicate : Predicate} {tokens : List Token} (test : SpelledTest predicate tokens) (depth : Nat) :
      SpelledOperand depth (.tests [predicate]) tokens :=
    SpelledOperand.tests.mpr (.one test)
  have inner := SpelledExpr.of (.one (.one (row (.compare "y" .contains "z") 127)))
  have group : SpelledOperand 128 (.bracket _) (.groupOpen :: (_ ++ [.groupClose])) := ⟨_, rfl, inner⟩
  have spelled := SpelledExpr.of (.one (.adjacent (row between 128) (.one group) fun _ => rfl))
  have parsed : parse "x=[1 TO 2] (y:z)" = .ok _ := parse_of_scans (within.spaced test.scans.grouped) spelled
  obtain ⟨lexemes, written, scanned, scannedAgain, kept⟩ := parse_keeps_tokens parsed
  exact ⟨_, lexemes, written, parsed, scanned, by decide, scannedAgain, kept⟩

end MediaSearch.Query
