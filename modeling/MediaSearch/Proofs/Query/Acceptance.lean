import MediaSearch.Proofs.Query.Spelling

set_option autoImplicit false

namespace MediaSearch.Query

variable {lexemes rest : List Lexeme} {queryEnd : Nat}

def Took (Spelled : List Token → Prop) (lexemes rest : List Lexeme) : Prop :=
  ∃ tokens, Spelled tokens ∧ lexemes.map Lexeme.token = tokens ++ rest.map Lexeme.token

theorem Took.mono {Spelled Spelled' : List Token → Prop} (took : Took Spelled lexemes rest)
    (implies : ∀ tokens, Spelled tokens → Spelled' tokens) : Took Spelled' lexemes rest := by
  obtain ⟨tokens, spelled, split⟩ := took
  exact ⟨tokens, implies tokens spelled, split⟩

theorem parseBounds_ok {low high : String} {shorter}
    (read : parseBounds queryEnd lexemes = .ok ((low, high), ⟨rest, shorter⟩)) :
    lexemes.map Lexeme.token =
      .value low :: .to :: .value high :: .rangeClose :: rest.map Lexeme.token := by
  unfold parseBounds at read
  split at read
  · cases read
    rfl
  all_goals cases read

theorem parsePredicate_took {predicate : Predicate} {shorter}
    (read : parsePredicate queryEnd lexemes = .ok (predicate, ⟨rest, shorter⟩)) :
    Took (SpelledTest predicate) lexemes rest := by
  unfold parsePredicate at read
  split at read
  · next field _ op _ value _ after =>
    cases read
    exact ⟨_, .compare field op value, rfl⟩
  · next field _ op _ _ after =>
    split at read
    · next range =>
      split at read
      · cases read
      · next low high remaining _ bounds =>
        cases read
        exact ⟨_, .between field low high range, by simp [parseBounds_ok bounds]⟩
    · cases read
  all_goals cases read

theorem parsePredicates_took {predicates : List Predicate} {shorter}
    (read : parsePredicates queryEnd lexemes = .ok (predicates, ⟨rest, shorter⟩)) :
    Took (SpelledTests predicates) lexemes rest ∧ startsPredicate rest = false := by
  fun_induction parsePredicates queryEnd lexemes generalizing predicates rest with
  | case1 lexemes failure failed => cases read
  | case2 lexemes predicate after shorter first more failure failed ih => cases read
  | case3 lexemes predicate after shorter first more predicates final shorterStill others ih =>
    cases read
    obtain ⟨tokens, test, split⟩ := parsePredicate_took first
    obtain ⟨⟨otherTokens, tests, splitOthers⟩, stops⟩ := ih others
    refine ⟨⟨tokens ++ otherTokens, .more test tests, ?_⟩, stops⟩
    rw [split, splitOthers, List.append_assoc]
  | case4 lexemes predicate after shorter first last =>
    cases read
    exact ⟨(parsePredicate_took first).mono fun _ => .one, by simpa using last⟩

section Operands

variable {Operand : Expr → List Token → Prop}
  {operand : (lexemes : List Lexeme) → Parsed Expr lexemes}

-- An operand whose tests could go on was read to its end.
def TakesOperands (Operand : Expr → List Token → Prop)
    (operand : (lexemes : List Lexeme) → Parsed Expr lexemes) : Prop :=
  ∀ lexemes rest expr shorter, operand lexemes = .ok (expr, ⟨rest, shorter⟩) →
    Took (Operand expr) lexemes rest ∧ (expr.endsInTests = true → startsPredicate rest = false)

theorem opensTest_of_append {tokens after : List Token}
    (stops : opensTest (tokens ++ after) = false) : opensTest tokens = false := by
  cases opens : opensTest tokens with
  | false => rfl
  | true =>
    rw [opensTest_append (opensOperand_of_opensTest opens), opens] at stops
    cases stops

theorem parseOperands_took (takes : TakesOperands Operand operand) {exprs : List Expr} {shorter}
    (read : parseOperands operand lexemes = .ok (exprs, ⟨rest, shorter⟩)) :
    Took (SpelledOperands Operand exprs) lexemes rest := by
  fun_induction parseOperands operand lexemes generalizing exprs rest with
  | case1 => cases read
  | case2 => cases read
  | case3 lexemes first offset afterAnd _ others final shorterStill tail shorter head ih =>
    cases read
    obtain ⟨⟨tokens, spelled, split⟩, -⟩ := takes _ _ _ _ head
    obtain ⟨otherTokens, spelledOthers, splitOthers⟩ := ih tail
    refine ⟨tokens ++ .and :: otherTokens, .joined spelled spelledOthers, ?_⟩
    rw [split, List.map_cons, splitOthers, List.append_assoc, List.cons_append]
  | case4 => cases read
  | case5 lexemes first after _ noAnd another others final shorterStill tail shorter head ih =>
    cases read
    obtain ⟨⟨tokens, spelled, split⟩, stops⟩ := takes _ _ _ _ head
    obtain ⟨otherTokens, spelledOthers, splitOthers⟩ := ih tail
    refine ⟨tokens ++ otherTokens, .adjacent spelled spelledOthers fun tests => ?_, ?_⟩
    · have noTest := stops tests
      rw [startsPredicate_eq, splitOthers] at noTest
      exact opensTest_of_append noTest
    · rw [split, splitOthers, List.append_assoc]
  | case6 lexemes first after _ noAnd last shorter head =>
    cases read
    exact (takes _ _ _ _ head).1.mono fun _ => .one

theorem parseAlternatives_took (takes : TakesOperands Operand operand) {exprs : List Expr} {shorter}
    (read : parseAlternatives operand lexemes = .ok (exprs, ⟨rest, shorter⟩)) :
    Took (SpelledAlternatives Operand exprs) lexemes rest := by
  fun_induction parseAlternatives operand lexemes generalizing exprs rest with
  | case1 => cases read
  | case2 => cases read
  | case3 lexemes operands offset afterOr _ others final shorterStill tail shorter head ih =>
    cases read
    obtain ⟨tokens, spelled, split⟩ := parseOperands_took takes head
    obtain ⟨otherTokens, spelledOthers, splitOthers⟩ := ih tail
    refine ⟨tokens ++ .or :: otherTokens, .more spelled spelledOthers, ?_⟩
    rw [split, List.map_cons, splitOthers, List.append_assoc, List.cons_append]
  | case4 lexemes operands after _ noOr shorter head =>
    cases read
    exact (parseOperands_took takes head).mono fun _ => .one

theorem parseExpr_took (takes : TakesOperands Operand operand) {expr : Expr} {shorter}
    (read : parseExpr operand lexemes = .ok (expr, ⟨rest, shorter⟩)) :
    Took (SpelledExpr Operand expr) lexemes rest := by
  unfold parseExpr at read
  split at read
  · cases read
  · next alternatives _ found =>
    cases read
    exact (parseAlternatives_took takes found).mono fun _ => .of

theorem parseGroup_took (takes : TakesOperands Operand operand) {start : Nat} {expr : Expr} {shorter}
    (read : parseGroup start operand lexemes = .ok (expr, ⟨rest, shorter⟩)) :
    ∃ inner, expr = .bracket inner ∧
      ∃ tokens, SpelledExpr Operand inner tokens ∧
        lexemes.map Lexeme.token = tokens ++ .groupClose :: rest.map Lexeme.token := by
  unfold parseGroup at read
  split at read
  · cases read
  · split at read
    · cases read
    · next inner _ _ found =>
      split at read
      · cases read
      · cases read
        obtain ⟨tokens, spelled, split⟩ := parseExpr_took takes found
        exact ⟨inner, rfl, tokens, spelled, split⟩
      · cases read

end Operands

theorem SpelledOperand.tests {depth : Nat} {predicates : List Predicate} {tokens : List Token} :
    SpelledOperand depth (.tests predicates) tokens ↔ SpelledTests predicates tokens := by
  cases depth <;> rfl

theorem parseOperand_field_took {depth : Nat} {expr : Expr} {name : String} {offset : Nat} {shorter}
    (read : parseOperand queryEnd depth (⟨.field name, offset⟩ :: lexemes) =
      .ok (expr, ⟨rest, shorter⟩)) :
    Took (SpelledOperand depth expr) (⟨.field name, offset⟩ :: lexemes) rest ∧
      (expr.endsInTests = true → startsPredicate rest = false) := by
  cases found : parsePredicates queryEnd (⟨.field name, offset⟩ :: lexemes) with
  | error failure => cases depth <;> simp [parseOperand, found] at read
  | ok result =>
    obtain ⟨predicates, after⟩ := result
    have same : Expr.tests predicates = expr ∧ after = ⟨rest, shorter⟩ := by
      cases depth <;> simpa [parseOperand, found] using read
    obtain ⟨rfl, rfl⟩ := same
    obtain ⟨took, stops⟩ := parsePredicates_took found
    exact ⟨took.mono fun _ => SpelledOperand.tests.mpr, fun _ => stops⟩

theorem parseOperand_took (depth : Nat) :
    TakesOperands (SpelledOperand depth) (parseOperand queryEnd depth) := by
  induction depth with
  | zero =>
    intro lexemes rest expr shorter read
    rcases lexemes with _ | ⟨⟨token, offset⟩, lexemes⟩
    · cases read
    · cases token with
      | field name => exact parseOperand_field_took read
      | _ => cases read
  | succ depth ih =>
    intro lexemes rest expr shorter read
    rcases lexemes with _ | ⟨⟨token, offset⟩, lexemes⟩
    · cases read
    · cases token with
      | field name => exact parseOperand_field_took read
      | not =>
        rw [parseOperand] at read
        split at read
        · cases read
        · next operand after _ found =>
          cases read
          obtain ⟨⟨tokens, spelled, split⟩, stops⟩ := ih _ _ _ _ found
          exact ⟨⟨.not :: tokens, ⟨tokens, rfl, spelled⟩, by simp [split]⟩, stops⟩
      | groupOpen =>
        rw [parseOperand] at read
        split at read
        · cases read
        · next group after _ found =>
          cases read
          obtain ⟨inner, rfl, tokens, spelled, split⟩ := parseGroup_took ih found
          refine ⟨⟨.groupOpen :: (tokens ++ [.groupClose]), ⟨tokens, rfl, spelled⟩, ?_⟩, ?_⟩
          · simp [split]
          · simp [Expr.endsInTests]
      | _ => cases read

theorem parseTokens_ok {expr : Expr} (read : parseTokens queryEnd lexemes = .ok expr) :
    SpelledExpr (SpelledOperand maxDepth) expr (lexemes.map Lexeme.token) := by
  unfold parseTokens at read
  split at read
  · cases read
  · split at read
    · cases read
    · next found =>
      split at read
      · cases read
        obtain ⟨tokens, spelled, split⟩ := parseExpr_took (parseOperand_took maxDepth) found
        simpa [split] using spelled
      · cases read
      · cases read

theorem parse_eq_ok_iff {input : String} {expr : Expr} :
    parse input = .ok expr ↔ ∃ lexemes, tokenize input = .ok lexemes ∧
      SpelledExpr (SpelledOperand maxDepth) expr (lexemes.map Lexeme.token) := by
  constructor
  · intro parsed
    unfold parse at parsed
    split at parsed
    · cases parsed
    · next lexemes scanned =>
      refine ⟨lexemes, scanned, ?_⟩
      cases read : parseTokens (Text.byteLength input.toList) lexemes with
      | error failure =>
        rw [read] at parsed
        cases parsed
      | ok found =>
        rw [read] at parsed
        cases parsed
        exact parseTokens_ok read
  · rintro ⟨lexemes, scanned, spelled⟩
    rw [parse, scanned]
    simp only [parseTokens_of_spelled spelled]
    rfl

end MediaSearch.Query
