import MediaSearch.Proofs.Query.Canonical
import MediaSearch.Query.Parser

set_option autoImplicit false

namespace MediaSearch.Query

def opensTest : List Token → Bool
  | .field _ :: _ => true
  | _ => false

def opensOperand : List Token → Bool
  | .field _ :: _ => true
  | .not :: _ => true
  | .groupOpen :: _ => true
  | _ => false

def opensAnd : List Token → Bool
  | .and :: _ => true
  | _ => false

def opensOr : List Token → Bool
  | .or :: _ => true
  | _ => false

-- Tests go on as long as there are fields, so a test right after such an expression would join it.
def Expr.endsInTests : Expr → Bool
  | .tests _ => true
  | .not operand => operand.endsInTests
  | .or _ | .and _ | .bracket _ => false

inductive SpelledTest : Predicate → List Token → Prop
  | compare (field : String) (op : Operator) (value : String) :
      SpelledTest (.compare field op value) [.field field, .operator op, .value value]
  | between (field low high : String) {op : Operator} (range : takesRange op = true) :
      SpelledTest (.between field low high)
        [.field field, .operator op, .rangeOpen, .value low, .to, .value high, .rangeClose]

inductive SpelledTests : List Predicate → List Token → Prop
  | one {predicate : Predicate} {tokens : List Token} (test : SpelledTest predicate tokens) :
      SpelledTests [predicate] tokens
  | more {predicate : Predicate} {predicates : List Predicate} {tokens others : List Token}
      (test : SpelledTest predicate tokens) (tests : SpelledTests predicates others) :
      SpelledTests (predicate :: predicates) (tokens ++ others)

inductive SpelledOperands (Operand : Expr → List Token → Prop) : List Expr → List Token → Prop
  | one {expr : Expr} {tokens : List Token} (operand : Operand expr tokens) :
      SpelledOperands Operand [expr] tokens
  | joined {expr : Expr} {exprs : List Expr} {tokens others : List Token}
      (operand : Operand expr tokens) (operands : SpelledOperands Operand exprs others) :
      SpelledOperands Operand (expr :: exprs) (tokens ++ .and :: others)
  | adjacent {expr : Expr} {exprs : List Expr} {tokens others : List Token}
      (operand : Operand expr tokens) (operands : SpelledOperands Operand exprs others)
      (apart : expr.endsInTests = true → opensTest others = false) :
      SpelledOperands Operand (expr :: exprs) (tokens ++ others)

inductive SpelledAlternatives (Operand : Expr → List Token → Prop) :
    List Expr → List Token → Prop
  | one {exprs : List Expr} {tokens : List Token} (operands : SpelledOperands Operand exprs tokens) :
      SpelledAlternatives Operand [Expr.allOf exprs] tokens
  | more {exprs alternatives : List Expr} {tokens others : List Token}
      (operands : SpelledOperands Operand exprs tokens)
      (rest : SpelledAlternatives Operand alternatives others) :
      SpelledAlternatives Operand (Expr.allOf exprs :: alternatives) (tokens ++ .or :: others)

inductive SpelledExpr (Operand : Expr → List Token → Prop) : Expr → List Token → Prop
  | of {exprs : List Expr} {tokens : List Token}
      (alternatives : SpelledAlternatives Operand exprs tokens) :
      SpelledExpr Operand (Expr.anyOf exprs) tokens

-- The recursion is on the number of negations and groups that may still be opened.
def SpelledOperand : Nat → Expr → List Token → Prop
  | _, .tests predicates, tokens => SpelledTests predicates tokens
  | depth + 1, .not operand, tokens =>
      ∃ inner, tokens = .not :: inner ∧ SpelledOperand depth operand inner
  | depth + 1, .bracket expr, tokens =>
      ∃ inner, tokens = .groupOpen :: (inner ++ [.groupClose]) ∧
        SpelledExpr (SpelledOperand depth) expr inner
  | _, _, _ => False

section Reading

variable {α : Type} {tokens after : List Token} {queryEnd : Nat}

def ReadsTo (parser : (lexemes : List Lexeme) → Parsed α lexemes) (value : α)
    (tokens after : List Token) : Prop :=
  ∀ lexemes : List Lexeme, lexemes.map Lexeme.token = tokens ++ after →
    ∃ rest shorter, parser lexemes = .ok (value, ⟨rest, shorter⟩) ∧
      rest.map Lexeme.token = after

theorem startsPredicate_eq (lexemes : List Lexeme) :
    startsPredicate lexemes = opensTest (lexemes.map Lexeme.token) := by
  rcases lexemes with _ | ⟨⟨token, offset⟩, rest⟩
  · rfl
  · cases token <;> rfl

theorem startsOperand_eq (lexemes : List Lexeme) :
    startsOperand lexemes = opensOperand (lexemes.map Lexeme.token) := by
  rcases lexemes with _ | ⟨⟨token, offset⟩, rest⟩
  · rfl
  · cases token <;> rfl

theorem SpelledTest.opens {predicate : Predicate} (test : SpelledTest predicate tokens)
    (more : List Token) : opensTest (tokens ++ more) = true := by
  cases test <;> rfl

theorem SpelledTests.opens {predicates : List Predicate} (tests : SpelledTests predicates tokens)
    (more : List Token) : opensTest (tokens ++ more) = true := by
  cases tests with
  | one test => exact test.opens more
  | more test tests => simpa [List.append_assoc] using test.opens _

theorem opensOperand_of_opensTest (opens : opensTest tokens = true) : opensOperand tokens = true := by
  unfold opensTest at opens
  split at opens
  · rfl
  · simp at opens

theorem opensTest_append (opens : opensOperand tokens = true) (more : List Token) :
    opensTest (tokens ++ more) = opensTest tokens := by
  cases tokens with
  | nil => simp [opensOperand] at opens
  | cons token rest => cases token <;> rfl

theorem SpelledOperand.opens {depth : Nat} {expr : Expr} (operand : SpelledOperand depth expr tokens)
    (more : List Token) : opensOperand (tokens ++ more) = true := by
  unfold SpelledOperand at operand
  split at operand
  · exact opensOperand_of_opensTest (operand.opens more)
  · obtain ⟨inner, rfl, -⟩ := operand
    rfl
  · obtain ⟨inner, rfl, -⟩ := operand
    rfl
  · exact operand.elim

theorem parsePredicate_reads {predicate : Predicate} (test : SpelledTest predicate tokens) :
    ReadsTo (parsePredicate queryEnd) predicate tokens after := by
  intro lexemes spelled
  cases test with
  | compare field op value =>
    simp only [List.cons_append, List.nil_append, List.map_eq_cons_iff] at spelled
    obtain ⟨⟨_, _⟩, _, rfl, rfl, ⟨_, _⟩, _, rfl, rfl, ⟨_, _⟩, rest, rfl, rfl, rfl⟩ := spelled
    exact ⟨rest, _, rfl, rfl⟩
  | between field low high range =>
    simp only [List.cons_append, List.nil_append, List.map_eq_cons_iff] at spelled
    obtain ⟨⟨_, _⟩, _, rfl, rfl, ⟨_, _⟩, _, rfl, rfl, ⟨_, _⟩, _, rfl, rfl, ⟨_, _⟩, _, rfl, rfl,
      ⟨_, _⟩, _, rfl, rfl, ⟨_, _⟩, _, rfl, rfl, ⟨_, _⟩, rest, rfl, rfl, rfl⟩ := spelled
    refine ⟨rest, by simp; omega, ?_, rfl⟩
    simp [parsePredicate, parseBounds, range]

theorem parsePredicates_reads {predicates : List Predicate} (tests : SpelledTests predicates tokens)
    (stops : opensTest after = false) :
    ReadsTo (parsePredicates queryEnd) predicates tokens after := by
  induction tests with
  | one test =>
    intro lexemes spelled
    obtain ⟨rest, shorter, read, left⟩ := parsePredicate_reads test lexemes spelled
    have last : startsPredicate rest = false := by rw [startsPredicate_eq, left, stops]
    refine ⟨rest, shorter, ?_, left⟩
    rw [parsePredicates, read]
    simp [last]
  | more test tests ih =>
    intro lexemes spelled
    rw [List.append_assoc] at spelled
    obtain ⟨rest, shorter, read, left⟩ := parsePredicate_reads test lexemes spelled
    obtain ⟨final, shorterStill, readMore, leftOver⟩ := ih rest left
    have another : startsPredicate rest = true := by
      rw [startsPredicate_eq, left, tests.opens]
    refine ⟨final, by omega, ?_, leftOver⟩
    rw [parsePredicates, read]
    simp [another, readMore]

def EndsOperands (after : List Token) : Prop := opensAnd after = false ∧ opensOperand after = false

theorem EndsOperands.noTest (ends : EndsOperands after) : opensTest after = false := by
  cases opens : opensTest after with
  | false => rfl
  | true => simpa [opensOperand_of_opensTest opens] using ends.2

section Operands

variable {Operand : Expr → List Token → Prop}
  {operand : (lexemes : List Lexeme) → Parsed Expr lexemes}

-- An operand whose tests could go on is read only up to something that is no test.
structure ReadsOperands (Operand : Expr → List Token → Prop)
    (operand : (lexemes : List Lexeme) → Parsed Expr lexemes) : Prop where
  opens : ∀ expr tokens more, Operand expr tokens → opensOperand (tokens ++ more) = true
  reads : ∀ expr tokens after, Operand expr tokens →
    (expr.endsInTests = true → opensTest after = false) → ReadsTo operand expr tokens after

theorem SpelledOperands.opens {exprs : List Expr}
    (opens : ∀ expr tokens more, Operand expr tokens → opensOperand (tokens ++ more) = true)
    (operands : SpelledOperands Operand exprs tokens) (more : List Token) :
    opensOperand (tokens ++ more) = true := by
  cases operands with
  | one operand => exact opens _ _ more operand
  | joined operand operands => simpa [List.append_assoc] using opens _ _ _ operand
  | adjacent operand operands apart => simpa [List.append_assoc] using opens _ _ _ operand

theorem parseOperands_and {lexemes rest : List Lexeme} {first : Expr} {shorter}
    (read : operand lexemes = .ok (first, ⟨rest, shorter⟩)) {offset : Nat} {afterAnd : List Lexeme}
    (found : rest = ⟨.and, offset⟩ :: afterAnd) {others : List Expr} {final : List Lexeme}
    {shorterStill} (readOthers : parseOperands operand afterAnd = .ok (others, ⟨final, shorterStill⟩)) :
    ∃ shortest, parseOperands operand lexemes = .ok (first :: others, ⟨final, shortest⟩) := by
  subst found
  simp only [List.length_cons] at shorter
  refine ⟨by omega, ?_⟩
  rw [parseOperands, read]
  simp [readOthers]

theorem parseOperands_more {lexemes rest : List Lexeme} {first : Expr} {shorter}
    (read : operand lexemes = .ok (first, ⟨rest, shorter⟩)) (another : startsOperand rest = true)
    {others : List Expr} {final : List Lexeme} {shorterStill}
    (readOthers : parseOperands operand rest = .ok (others, ⟨final, shorterStill⟩)) :
    ∃ shortest, parseOperands operand lexemes = .ok (first :: others, ⟨final, shortest⟩) := by
  refine ⟨by omega, ?_⟩
  rw [parseOperands, read]
  rcases rest with _ | ⟨⟨token, offset⟩, rest⟩
  · simp [startsOperand] at another
  · cases token <;> simp_all [startsOperand]

theorem parseOperands_last {lexemes rest : List Lexeme} {first : Expr} {shorter}
    (read : operand lexemes = .ok (first, ⟨rest, shorter⟩))
    (last : EndsOperands (rest.map Lexeme.token)) :
    parseOperands operand lexemes = .ok ([first], ⟨rest, shorter⟩) := by
  rw [parseOperands, read]
  rcases rest with _ | ⟨⟨token, offset⟩, rest⟩
  · simp [startsOperand]
  · cases token <;> simp_all [startsOperand, EndsOperands, opensAnd, opensOperand]

theorem parseOperands_reads {exprs : List Expr}
    (operandReads : ReadsOperands Operand operand)
    (operands : SpelledOperands Operand exprs tokens) (ends : EndsOperands after) :
    ReadsTo (parseOperands operand) exprs tokens after := by
  induction operands with
  | one spelledOperand =>
    intro lexemes spelled
    obtain ⟨rest, shorter, read, left⟩ :=
      operandReads.reads _ _ after spelledOperand (fun _ => ends.noTest) lexemes spelled
    exact ⟨rest, shorter, parseOperands_last read (left ▸ ends), left⟩
  | joined spelledOperand _ ih =>
    intro lexemes spelled
    rw [List.append_assoc] at spelled
    obtain ⟨rest, shorter, read, left⟩ :=
      operandReads.reads _ _ _ spelledOperand (fun _ => rfl) lexemes spelled
    obtain ⟨⟨token, offset⟩, afterAnd, found, isAnd, leftAnd⟩ := List.map_eq_cons_iff.mp left
    obtain ⟨final, shorterStill, readOthers, leftOver⟩ := ih afterAnd leftAnd
    simp only at isAnd
    obtain ⟨shortest, readAll⟩ := parseOperands_and read (isAnd ▸ found) readOthers
    exact ⟨final, shortest, readAll, leftOver⟩
  | adjacent spelledOperand operands apart ih =>
    intro lexemes spelled
    rw [List.append_assoc] at spelled
    have another := operands.opens operandReads.opens
    have first := opensTest_append (by simpa using another []) after
    obtain ⟨rest, shorter, read, left⟩ :=
      operandReads.reads _ _ _ spelledOperand (fun tests => first.trans (apart tests)) lexemes spelled
    obtain ⟨final, shorterStill, readOthers, leftOver⟩ := ih rest left
    obtain ⟨shortest, readAll⟩ :=
      parseOperands_more read (by rw [startsOperand_eq, left, another]) readOthers
    exact ⟨final, shortest, readAll, leftOver⟩

theorem parseAlternatives_reads {exprs : List Expr}
    (operandReads : ReadsOperands Operand operand)
    (alternatives : SpelledAlternatives Operand exprs tokens) (ends : EndsOperands after)
    (noOr : opensOr after = false) :
    ReadsTo (parseAlternatives operand) exprs tokens after := by
  induction alternatives with
  | one operands =>
    intro lexemes spelled
    obtain ⟨rest, shorter, read, left⟩ :=
      parseOperands_reads operandReads operands ends lexemes spelled
    have last : opensOr (rest.map Lexeme.token) = false := left ▸ noOr
    refine ⟨rest, shorter, ?_, left⟩
    rw [parseAlternatives, read]
    rcases rest with _ | ⟨⟨token, offset⟩, rest⟩
    · rfl
    · cases token with
      | or => simp [opensOr] at last
      | _ => rfl
  | more operands _ ih =>
    intro lexemes spelled
    rw [List.append_assoc] at spelled
    obtain ⟨rest, shorter, read, left⟩ :=
      parseOperands_reads operandReads operands ⟨rfl, rfl⟩ lexemes spelled
    obtain ⟨⟨token, offset⟩, afterOr, found, isOr, leftOr⟩ := List.map_eq_cons_iff.mp left
    simp only at isOr
    subst found isOr
    obtain ⟨final, shorterStill, readOthers, leftOver⟩ := ih afterOr leftOr
    simp only [List.length_cons] at shorter
    refine ⟨final, by omega, ?_, leftOver⟩
    rw [parseAlternatives, read]
    simp [readOthers]

theorem parseExpr_reads {expr : Expr}
    (operandReads : ReadsOperands Operand operand)
    (spelledExpr : SpelledExpr Operand expr tokens) (ends : EndsOperands after)
    (noOr : opensOr after = false) : ReadsTo (parseExpr operand) expr tokens after := by
  intro lexemes spelled
  obtain ⟨alternatives⟩ := spelledExpr
  obtain ⟨rest, shorter, read, left⟩ :=
    parseAlternatives_reads operandReads alternatives ends noOr lexemes spelled
  exact ⟨rest, shorter, by rw [parseExpr, read], left⟩

end Operands

theorem parseGroup_reads {operand : (lexemes : List Lexeme) → Parsed Expr lexemes} {expr : Expr}
    {start : Nat} (opens : opensOperand (tokens ++ .groupClose :: after) = true)
    (reads : ReadsTo (parseExpr operand) expr tokens (.groupClose :: after)) :
    ReadsTo (parseGroup start operand) (.bracket expr) (tokens ++ [.groupClose]) after := by
  intro lexemes spelled
  rw [List.append_assoc, List.singleton_append] at spelled
  obtain ⟨rest, shorter, read, left⟩ := reads lexemes spelled
  obtain ⟨⟨token, offset⟩, final, found, isClose, leftOver⟩ := List.map_eq_cons_iff.mp left
  simp only at isClose
  subst found isClose
  simp only [List.length_cons] at shorter
  refine ⟨final, by omega, ?_, leftOver⟩
  rcases lexemes with _ | ⟨⟨token, _⟩, lexemes⟩
  · simp at shorter
  · cases token with
    | groupClose => simp [← spelled, opensOperand] at opens
    | _ => simp [parseGroup, read]

theorem parseOperand_tests {depth : Nat} {predicates : List Predicate}
    (tests : SpelledTests predicates tokens) (stops : opensTest after = false) :
    ReadsTo (parseOperand queryEnd depth) (.tests predicates) tokens after := by
  intro lexemes spelled
  have reads : ReadsTo (parsePredicates queryEnd) predicates tokens after :=
    parsePredicates_reads tests stops
  obtain ⟨rest, shorter, read, left⟩ := reads lexemes spelled
  refine ⟨rest, shorter, ?_, left⟩
  have opens := tests.opens after
  rw [← spelled] at opens
  rcases lexemes with _ | ⟨⟨token, offset⟩, lexemes⟩
  · simp [opensTest] at opens
  · cases token with
    | field name => cases depth <;> simp [parseOperand, read]
    | _ => simp [opensTest] at opens

theorem SpelledExpr.opens {depth : Nat} {expr : Expr}
    (spelledExpr : SpelledExpr (SpelledOperand depth) expr tokens) (more : List Token) :
    opensOperand (tokens ++ more) = true := by
  have operands {exprs : List Expr} {tokens : List Token}
      (spelled : SpelledOperands (SpelledOperand depth) exprs tokens) (more : List Token) :
      opensOperand (tokens ++ more) = true :=
    spelled.opens (fun _ _ more operand => operand.opens more) more
  obtain ⟨alternatives⟩ := spelledExpr
  cases alternatives with
  | one spelled => exact operands spelled more
  | more spelled _ => simpa [List.append_assoc] using operands spelled _

theorem parseOperand_reads (depth : Nat) (expr : Expr) (tokens after : List Token)
    (spelledOperand : SpelledOperand depth expr tokens)
    (stops : expr.endsInTests = true → opensTest after = false) :
    ReadsTo (parseOperand queryEnd depth) expr tokens after := by
  induction depth generalizing expr tokens after with
  | zero =>
    cases expr with
    | tests predicates => exact parseOperand_tests spelledOperand (stops rfl)
    | _ => simp [SpelledOperand] at spelledOperand
  | succ depth ih =>
    cases expr with
    | tests predicates => exact parseOperand_tests spelledOperand (stops rfl)
    | not operand =>
      obtain ⟨inner, rfl, spelledInner⟩ := spelledOperand
      intro lexemes spelled
      obtain ⟨⟨token, offset⟩, afterNot, rfl, isNot, spelledRest⟩ := List.map_eq_cons_iff.mp spelled
      simp only at isNot
      subst isNot
      obtain ⟨rest, shorter, read, left⟩ :=
        ih operand inner after spelledInner stops afterNot spelledRest
      exact ⟨rest, by simp; omega, by simp [parseOperand, read], left⟩
    | bracket inner =>
      obtain ⟨inside, rfl, spelledInner⟩ := spelledOperand
      intro lexemes spelled
      obtain ⟨⟨token, offset⟩, afterOpen, rfl, isOpen, spelledRest⟩ :=
        List.map_eq_cons_iff.mp spelled
      simp only at isOpen
      subst isOpen
      have reads : ReadsTo (parseExpr (parseOperand queryEnd depth)) inner inside
          (.groupClose :: after) :=
        parseExpr_reads ⟨fun _ _ more operand => SpelledOperand.opens operand more, ih⟩ spelledInner
          ⟨rfl, rfl⟩ rfl
      have readsGroup : ReadsTo (parseGroup offset (parseOperand queryEnd depth)) (.bracket inner)
          (inside ++ [.groupClose]) after :=
        parseGroup_reads (spelledInner.opens _) reads
      obtain ⟨rest, shorter, read, left⟩ := readsGroup afterOpen spelledRest
      exact ⟨rest, by simp; omega, by simp [parseOperand, read], left⟩
    | or operands => simp [SpelledOperand] at spelledOperand
    | and operands => simp [SpelledOperand] at spelledOperand

theorem parseTokens_of_spelled {expr : Expr} {lexemes : List Lexeme}
    (spelled : SpelledExpr (SpelledOperand maxDepth) expr (lexemes.map Lexeme.token)) :
    parseTokens queryEnd lexemes = .ok expr := by
  have reads : ReadsTo (parseExpr (parseOperand queryEnd maxDepth)) expr
      (lexemes.map Lexeme.token) [] :=
    parseExpr_reads
      ⟨fun _ _ more operand => SpelledOperand.opens operand more, parseOperand_reads maxDepth⟩ spelled
      ⟨rfl, rfl⟩ rfl
  obtain ⟨rest, shorter, read, left⟩ := reads lexemes (by simp)
  have opens := spelled.opens []
  obtain rfl : rest = [] := List.map_eq_nil_iff.mp left
  rcases lexemes with _ | ⟨lexeme, lexemes⟩
  · simp [opensOperand] at opens
  · simp [parseTokens, read]

end Reading

end MediaSearch.Query
