import MediaSearch.Proofs.Query.Grammar
import MediaSearch.Proofs.Query.Layout
import MediaSearch.Proofs.Query.Lockstep

set_option autoImplicit false

/-!
Queries whose groups and negations lie too deep inside one another. What is open at a token can be told from
the tokens before it, without a tree. The parser counts down a depth instead, and gives up at the first token
that would open one thing more than it allows.
-/

namespace MediaSearch.Query

inductive Opening where
  | group
  | negation
  deriving DecidableEq, Repr

def closeNegations (opened : List Opening) : List Opening := opened.dropWhile (· = .negation)

-- What is open behind a token, the innermost first. A group is an operand, and so are tests.
def openBehind (opened : List Opening) : Token → List Opening
  | .not => .negation :: opened
  | .groupOpen => .group :: opened
  | .groupClose => closeNegations (closeNegations opened).tail
  | .and | .or => opened
  | _ => closeNegations opened

def openAfter (before : List Token) : List Opening := before.foldl openBehind []

def TooDeep (limit : Nat) (opened : List Opening) (token : Token) : Prop :=
  (token = .not ∨ token = .groupOpen) ∧ limit ≤ opened.length

instance (limit : Nat) (opened : List Opening) (token : Token) : Decidable (TooDeep limit opened token) :=
  inferInstanceAs (Decidable (_ ∧ _))

def firstTooDeep? (limit : Nat) : List Opening → List Lexeme → Option Lexeme
  | _, [] => none
  | opened, lexeme :: lexemes =>
    if TooDeep limit opened lexeme.token then some lexeme
    else firstTooDeep? limit (openBehind opened lexeme.token) lexemes

@[simp] theorem closeNegations_group (opened : List Opening) :
    closeNegations (.group :: opened) = .group :: opened := rfl

@[simp] theorem closeNegations_negation (opened : List Opening) :
    closeNegations (.negation :: opened) = closeNegations opened := rfl

@[simp] theorem closeNegations_closeNegations (opened : List Opening) :
    closeNegations (closeNegations opened) = closeNegations opened := by
  induction opened with
  | nil => rfl
  | cons opening opened ih => cases opening <;> simp [ih]

variable {limit queryEnd : Nat} {opened left : List Opening} {lexemes : List Lexeme}

theorem firstTooDeep?_cons {lexeme : Lexeme} (shallow : ¬ TooDeep limit opened lexeme.token) :
    firstTooDeep? limit opened (lexeme :: lexemes) =
      firstTooDeep? limit (openBehind opened lexeme.token) lexemes :=
  if_neg shallow

theorem firstTooDeep?_eq_some {lexeme : Lexeme} (found : firstTooDeep? limit opened lexemes = some lexeme) :
    ∃ before after, lexemes = before ++ lexeme :: after ∧
      TooDeep limit ((before.map Lexeme.token).foldl openBehind opened) lexeme.token ∧
      ∀ earlier inner later, before = earlier ++ inner :: later →
        ¬ TooDeep limit ((earlier.map Lexeme.token).foldl openBehind opened) inner.token := by
  induction lexemes generalizing opened with
  | nil => cases found
  | cons first lexemes ih =>
    rw [firstTooDeep?] at found
    split at found
    · next deep =>
      cases found
      exact ⟨[], lexemes, rfl, deep, by simp⟩
    · next shallow =>
      obtain ⟨before, after, rfl, deep, none⟩ := ih found
      refine ⟨first :: before, after, rfl, deep, fun earlier inner later split => ?_⟩
      cases earlier with
      | nil =>
        cases split
        exact shallow
      | cons _ earlier =>
        cases split
        exact none earlier inner later rfl

theorem firstTooDeep?_eq_none (none : firstTooDeep? limit opened lexemes = none) {before after : List Lexeme}
    {lexeme : Lexeme} (split : lexemes = before ++ lexeme :: after) :
    ¬ TooDeep limit ((before.map Lexeme.token).foldl openBehind opened) lexeme.token := by
  subst split
  induction before generalizing opened with
  | nil =>
    rw [List.nil_append, firstTooDeep?] at none
    split at none
    · cases none
    · next shallow => exact shallow
  | cons first before ih =>
    rw [List.cons_append, firstTooDeep?] at none
    split at none
    · cases none
    · exact ih none

def FindsTooDeep (limit : Nat) (opened : List Opening) (lexemes : List Lexeme) (failure : Failure) : Prop :=
  failure.fault = .nestedTooDeeply →
    (firstTooDeep? limit opened lexemes).map Lexeme.offset = some failure.offset

-- What the parser reads holds no such token: the search for it goes on behind it, where `left` is open.
def NestsWithin {α : Type} (limit : Nat) (opened left : List Opening) {lexemes : List Lexeme}
    (result : Parsed α lexemes) : Prop :=
  Ends (fun read => firstTooDeep? limit opened lexemes = firstTooDeep? limit left read.2.1)
    (FindsTooDeep limit opened lexemes) result

theorem FindsTooDeep.earlier {before : List Opening} {others : List Lexeme} {failure : Failure}
    (same : firstTooDeep? limit before others = firstTooDeep? limit opened lexemes)
    (finds : FindsTooDeep limit opened lexemes failure) : FindsTooDeep limit before others failure :=
  fun deep => same ▸ finds deep

theorem FindsTooDeep.of_ne {failure : Failure} (other : failure.fault ≠ .nestedTooDeeply) :
    FindsTooDeep limit opened lexemes failure :=
  fun deep => absurd deep other

theorem parseBounds_nests (limit queryEnd : Nat) (opened : List Opening) (lexemes : List Lexeme) :
    NestsWithin limit opened (closeNegations opened) (parseBounds queryEnd lexemes) := by
  unfold parseBounds
  split
  · exact .ok (by simp [firstTooDeep?, TooDeep, openBehind])
  all_goals exact .error (.of_ne (by simp))

theorem parsePredicate_nests (limit queryEnd : Nat) (opened : List Opening) (lexemes : List Lexeme) :
    NestsWithin limit opened (closeNegations opened) (parsePredicate queryEnd lexemes) := by
  unfold parsePredicate
  split
  · exact .ok (by simp [firstTooDeep?, TooDeep, openBehind])
  · next field fieldOffset op opOffset offset rest =>
    have bounds := parseBounds_nests limit queryEnd (closeNegations opened) rest
    rw [closeNegations_closeNegations] at bounds
    have inside : firstTooDeep? limit opened
          (⟨.field field, fieldOffset⟩ :: ⟨.operator op, opOffset⟩ :: ⟨.rangeOpen, offset⟩ :: rest) =
        firstTooDeep? limit (closeNegations opened) rest := by
      simp [firstTooDeep?, TooDeep, openBehind]
    split
    · split
      · next failed => exact .error ((bounds.of_error failed).earlier inside)
      · next found => exact .ok (inside.trans (bounds.of_ok found))
    · exact .error (.of_ne (by simp))
  all_goals exact .error (.of_ne (by simp))

theorem parsePredicates_nests (limit queryEnd : Nat) (opened : List Opening) (lexemes : List Lexeme) :
    NestsWithin limit opened (closeNegations opened) (parsePredicates queryEnd lexemes) := by
  fun_induction parsePredicates queryEnd lexemes generalizing opened with
  | case1 lexemes failure failed =>
    exact .error ((parsePredicate_nests limit queryEnd opened lexemes).of_error failed)
  | case2 lexemes predicate after shorter first more failure failed ih =>
    have test := (parsePredicate_nests limit queryEnd opened lexemes).of_ok first
    exact .error (((ih (closeNegations opened)).of_error failed).earlier test)
  | case3 lexemes predicate after shorter first more predicates final shorterStill others ih =>
    have test := (parsePredicate_nests limit queryEnd opened lexemes).of_ok first
    have tests := (ih (closeNegations opened)).of_ok others
    rw [closeNegations_closeNegations] at tests
    exact .ok (test.trans tests)
  | case4 lexemes predicate after shorter first last =>
    exact .ok ((parsePredicate_nests limit queryEnd opened lexemes).of_ok first)

section Operands

variable {operand : (lexemes : List Lexeme) → Parsed Expr lexemes}
  (each : ∀ lexemes, NestsWithin limit opened opened (operand lexemes))
include each

theorem parseOperands_nests (lexemes : List Lexeme) :
    NestsWithin limit opened opened (parseOperands operand lexemes) := by
  have passAnd (offset : Nat) (rest : List Lexeme) :
      firstTooDeep? limit opened (⟨.and, offset⟩ :: rest) = firstTooDeep? limit opened rest :=
    firstTooDeep?_cons (by simp [TooDeep])
  fun_induction parseOperands operand lexemes with
  | case1 lexemes failure failed => exact .error ((each lexemes).of_error failed)
  | case2 lexemes first offset afterAnd _ failure failed shorter head ih =>
    have start := ((each lexemes).of_ok head).trans (passAnd offset afterAnd)
    exact .error ((ih.of_error failed).earlier start)
  | case3 lexemes first offset afterAnd _ others final shorterStill tail shorter head ih =>
    have start := ((each lexemes).of_ok head).trans (passAnd offset afterAnd)
    exact .ok (start.trans (ih.of_ok tail))
  | case4 lexemes first after _ noAnd another failure failed shorter head ih =>
    exact .error ((ih.of_error failed).earlier ((each lexemes).of_ok head))
  | case5 lexemes first after _ noAnd another others final shorterStill tail shorter head ih =>
    exact .ok (((each lexemes).of_ok head).trans (ih.of_ok tail))
  | case6 lexemes first after _ noAnd last shorter head => exact .ok ((each lexemes).of_ok head)

theorem parseAlternatives_nests (lexemes : List Lexeme) :
    NestsWithin limit opened opened (parseAlternatives operand lexemes) := by
  have passOr (offset : Nat) (rest : List Lexeme) :
      firstTooDeep? limit opened (⟨.or, offset⟩ :: rest) = firstTooDeep? limit opened rest :=
    firstTooDeep?_cons (by simp [TooDeep])
  fun_induction parseAlternatives operand lexemes with
  | case1 lexemes failure failed => exact .error ((parseOperands_nests each lexemes).of_error failed)
  | case2 lexemes operands offset afterOr _ failure failed shorter head ih =>
    have start := ((parseOperands_nests each lexemes).of_ok head).trans (passOr offset afterOr)
    exact .error ((ih.of_error failed).earlier start)
  | case3 lexemes operands offset afterOr _ others final shorterStill tail shorter head ih =>
    have start := ((parseOperands_nests each lexemes).of_ok head).trans (passOr offset afterOr)
    exact .ok (start.trans (ih.of_ok tail))
  | case4 lexemes operands after _ noOr shorter head =>
    have only := (parseOperands_nests each lexemes).of_ok head
    exact .ok only

theorem parseExpr_nests (lexemes : List Lexeme) : NestsWithin limit opened opened (parseExpr operand lexemes) := by
  have alternatives := parseAlternatives_nests each lexemes
  unfold parseExpr
  split
  · next failed => exact .error (alternatives.of_error failed)
  · next found => exact .ok (alternatives.of_ok found)

end Operands

theorem parseGroup_nests {operand : (lexemes : List Lexeme) → Parsed Expr lexemes}
    (each : ∀ lexemes, NestsWithin limit (.group :: opened) (.group :: opened) (operand lexemes)) (start : Nat)
    (lexemes : List Lexeme) :
    NestsWithin limit (.group :: opened) (closeNegations opened) (parseGroup start operand lexemes) := by
  have inside := parseExpr_nests each lexemes
  unfold parseGroup
  split
  · exact .error (.of_ne (by simp))
  · split
    · next failed => exact .error (inside.of_error failed)
    · next found =>
      have left := inside.of_ok found
      split
      · exact .error (.of_ne (by simp))
      · exact .ok (left.trans (firstTooDeep?_cons (by simp [TooDeep])))
      · exact .error (.of_ne (by simp))

theorem parseOperand_tests_nests {depth offset : Nat} {name : String} :
    NestsWithin limit opened (closeNegations opened)
      (parseOperand queryEnd depth (⟨.field name, offset⟩ :: lexemes)) := by
  have tests := parsePredicates_nests limit queryEnd opened (⟨.field name, offset⟩ :: lexemes)
  rw [parseOperand]
  split
  · next failed => exact .error (tests.of_error failed)
  · next found => exact .ok (tests.of_ok found)

theorem parseOperand_nests (depth : Nat) (opened : List Opening) (bound : opened.length + depth = limit)
    (lexemes : List Lexeme) :
    NestsWithin limit opened (closeNegations opened) (parseOperand queryEnd depth lexemes) := by
  induction depth generalizing opened lexemes with
  | zero =>
    rcases lexemes with _ | ⟨⟨token, offset⟩, lexemes⟩
    · exact .error (.of_ne (by simp))
    · cases token with
      | not | groupOpen => exact .error fun _ => by simp [firstTooDeep?, TooDeep, ← bound]
      | field name => exact parseOperand_tests_nests
      | _ => exact .error (.of_ne (by simp))
  | succ depth ih =>
    have shallow (token : Token) : ¬ TooDeep limit opened token := fun deep => by
      have := deep.2
      omega
    rcases lexemes with _ | ⟨⟨token, offset⟩, lexemes⟩
    · exact .error (.of_ne (by simp))
    · have start : firstTooDeep? limit opened (⟨token, offset⟩ :: lexemes) =
          firstTooDeep? limit (openBehind opened token) lexemes := firstTooDeep?_cons (shallow token)
      cases token with
      | not =>
        have negated := ih (.negation :: opened) (by rw [List.length_cons]; omega) lexemes
        rw [parseOperand]
        split
        · next failed => exact .error ((negated.of_error failed).earlier start)
        · next found => exact .ok (start.trans (negated.of_ok found))
      | groupOpen =>
        have each := ih (.group :: opened) (by rw [List.length_cons]; omega)
        have group := parseGroup_nests each offset lexemes
        rw [parseOperand]
        split
        · next failed => exact .error ((group.of_error failed).earlier start)
        · next found => exact .ok (start.trans (group.of_ok found))
      | field name => exact parseOperand_tests_nests
      | _ => exact .error (.of_ne (by simp))

section Derived

variable {symbol : Symbol} {depth : Nat} {tokens before after : List Token}

theorem foldl_flatMap_openBehind {α : Type} {write : α → List Token} {items : List α}
    (each : ∀ item ∈ items, (write item).foldl openBehind opened = opened) :
    (items.flatMap write).foldl openBehind opened = opened := by
  induction items with
  | nil => rfl
  | cons item items ih =>
    obtain ⟨first, others⟩ := List.forall_mem_cons.mp each
    rw [List.flatMap_cons, List.foldl_append, first, ih others]

theorem Derives.foldl_openBehind (derived : Derives symbol depth tokens) (opened : List Opening) :
    tokens.foldl openBehind opened = closeNegations opened := by
  induction derived generalizing opened with
  | orExpr _ _ head tail =>
    rw [List.foldl_append, head, foldl_flatMap_openBehind]
    intro other member
    rw [List.foldl_cons, openBehind, tail other member, closeNegations_closeNegations]
  | andExpr _ _ head tail =>
    rw [List.foldl_append, head, foldl_flatMap_openBehind]
    rintro ⟨word, other⟩ member
    cases word <;> simp [openBehind, tail _ member]
  | negation _ ih => exact ih (.negation :: opened)
  | primary _ ih => exact ih opened
  | group _ ih =>
    rw [List.foldl_cons, List.foldl_append, openBehind, ih]
    rfl
  | @tests _ rows nonempty _ ih =>
    obtain ⟨first, others, rfl⟩ := List.exists_cons_of_ne_nil nonempty
    obtain ⟨head, tail⟩ := List.forall_mem_cons.mp ih
    rw [List.flatten_cons, List.foldl_append, head, ← List.flatMap_id, foldl_flatMap_openBehind]
    intro other member
    rw [id, tail other member, closeNegations_closeNegations]
  | compare | between => simp [openBehind]

theorem parseExpr_of_derives (queryEnd : Nat) (derived : Derives .orExpr depth (lexemes.map Lexeme.token)) :
    ∃ expr shorter, parseExpr (parseOperand queryEnd depth) lexemes = .ok (expr, ⟨[], shorter⟩) := by
  obtain ⟨expr, spelled⟩ := derived.spells
  have reads : ReadsTo (parseExpr (parseOperand queryEnd depth)) expr (lexemes.map Lexeme.token) [] :=
    parseExpr_reads ⟨fun _ _ more operand => SpelledOperand.opens operand more, parseOperand_reads depth⟩
      spelled ⟨rfl, rfl⟩ rfl
  obtain ⟨rest, shorter, read, left⟩ := reads lexemes (by simp)
  obtain rfl : rest = [] := List.map_eq_nil_iff.mp left
  exact ⟨expr, shorter, read⟩

theorem derives_of_parseExpr {expr : Expr} {shorter}
    (read : parseExpr (parseOperand queryEnd depth) lexemes = .ok (expr, ⟨[], shorter⟩)) :
    Derives .orExpr depth (lexemes.map Lexeme.token) := by
  obtain ⟨tokens, spelled, whole⟩ := parseExpr_took (parseOperand_took depth) read
  rw [whole, List.map_nil, List.append_nil]
  exact spelled.derives (SpelledOperand.derives depth)

theorem Derives.not_tooDeep {token : Token} (derived : Derives .orExpr depth (before ++ token :: after)) :
    ¬ TooDeep depth (openAfter before) token := by
  let place (token : Token) : Lexeme := ⟨token, 0⟩
  have placed (tokens : List Token) : (tokens.map place).map Lexeme.token = tokens := by
    simp [place, Function.comp_def]
  have split : (before ++ token :: after).map place = before.map place ++ place token :: after.map place := by
    simp
  rw [← placed (before ++ token :: after)] at derived
  obtain ⟨expr, shorter, read⟩ := parseExpr_of_derives 0 derived
  have none := (parseExpr_nests (parseOperand_nests depth [] (Nat.zero_add depth)) _).of_ok read
  have shallow := firstTooDeep?_eq_none none split
  rwa [placed, ← openAfter] at shallow

-- A larger depth would do, so the parser can have failed for no other reason.
theorem parseExpr_tooDeep (queryEnd : Nat) (derived : Derives .orExpr depth (lexemes.map Lexeme.token))
    (deep : ¬ Derives .orExpr maxDepth (lexemes.map Lexeme.token)) :
    ∃ failure, parseExpr (parseOperand queryEnd maxDepth) lexemes = .error failure ∧
      failure.fault = .nestedTooDeeply := by
  obtain ⟨expr, shorter, read⟩ := parseExpr_of_derives queryEnd derived
  rcases Nat.le_total depth maxDepth with le | le
  · have run := parseExpr_lockstep (parseOperand_lockstep queryEnd queryEnd le) (.refl lexemes)
    rw [read] at run
    generalize found : parseExpr (parseOperand queryEnd maxDepth) lexemes = result at run ⊢
    obtain ⟨_, left⟩ := run
    cases left
    exact absurd (derives_of_parseExpr found) deep
  · have run := parseExpr_lockstep (parseOperand_lockstep queryEnd queryEnd le) (.refl lexemes)
    rw [read] at run
    generalize found : parseExpr (parseOperand queryEnd maxDepth) lexemes = result at run ⊢
    obtain ⟨_, left⟩ | _ | gaveUp := run
    · cases left
      exact absurd (derives_of_parseExpr found) deep
    · exact ⟨_, rfl, gaveUp⟩

end Derived

def groupedTest : Nat → List Char
  | 0 => "a:1".toList
  | depth + 1 => '(' :: (groupedTest depth ++ [')'])

def groupedTokens : Nat → List Token
  | 0 => [.field "a", .operator .contains, .value "1"]
  | depth + 1 => .groupOpen :: (groupedTokens depth ++ [.groupClose])

theorem scans_groupedTest (depth : Nat) : Scans (groupedTest depth) (groupedTokens depth) := by
  induction depth with
  | zero =>
    have bare : IsBareValue .contains ['1'] :=
      ⟨by decide, forall_chars (by decide), by decide, by decide, by decide⟩
    exact scans_test ⟨by decide, forall_chars (by decide)⟩ bare.noEqual bare.nonempty (scansOperand_bare bare)
  | succ depth ih => exact ih.grouped

theorem derives_groupedTokens (spare depth : Nat) : Derives .unary (spare + depth) (groupedTokens depth) := by
  induction depth with
  | zero => exact .primary (SpelledTests.one (.compare "a" .contains "1")).derives
  | succ depth ih => exact .primary (.group ih.andOne.orOne)

theorem groupedTokens_succ (depth : Nat) :
    ∃ after, groupedTokens (depth + 1) = List.replicate depth .groupOpen ++ .groupOpen :: after := by
  induction depth with
  | zero => exact ⟨_, rfl⟩
  | succ depth ih =>
    obtain ⟨after, split⟩ := ih
    exact ⟨after ++ [.groupClose], by rw [groupedTokens, split, List.replicate_succ]; simp⟩

theorem length_foldl_replicate (count : Nat) (opened : List Opening) :
    ((List.replicate count Token.groupOpen).foldl openBehind opened).length = opened.length + count := by
  induction count generalizing opened with
  | zero => rfl
  | succ count ih =>
    rw [List.replicate_succ, List.foldl_cons, ih, openBehind, List.length_cons]
    omega

theorem parseTokens_of_error {failure : Failure} (nonempty : lexemes ≠ [])
    (failed : parseExpr (parseOperand queryEnd maxDepth) lexemes = .error failure) :
    parseTokens queryEnd lexemes = .error failure := by
  cases lexemes with
  | nil => exact absurd rfl nonempty
  | cons => simp only [parseTokens, failed]

theorem parse_nested_too_deeply {input : String} {lexemes : List Lexeme} {depth : Nat}
    (scanned : tokenize input = .ok lexemes) (derived : Derives .orExpr depth (lexemes.map Lexeme.token))
    (deep : ¬ Derives .orExpr 128 (lexemes.map Lexeme.token)) :
    ∃ found before lexeme after, parse input = .error (.malformed found) ∧
      found.fault.message = "query nested too deeply" ∧ found.offset = lexeme.offset ∧
      lexemes = before ++ lexeme :: after ∧
      TooDeep 128 (openAfter (before.map Lexeme.token)) lexeme.token ∧
      ∀ earlier inner later, before = earlier ++ inner :: later →
        ¬ TooDeep 128 (openAfter (earlier.map Lexeme.token)) inner.token := by
  let queryEnd := Text.byteLength input.toList
  obtain ⟨failure, failed, fault⟩ := parseExpr_tooDeep queryEnd derived deep
  have finds :=
    (parseExpr_nests (parseOperand_nests maxDepth [] (Nat.zero_add maxDepth)) lexemes).of_error failed fault
  obtain ⟨lexeme, first, same⟩ := Option.map_eq_some_iff.mp finds
  obtain ⟨before, after, rfl, tooDeep, none⟩ := firstTooDeep?_eq_some first
  obtain ⟨text, starts, placed⟩ := ((tokenize_ends input).of_ok scanned).boundary lexeme (by simp)
  have located := Failure.toParseError_of_isPrefix starts (by omega : failure.offset = Text.byteLength text)
  have refused : parse input = .error (failure.toParseError input) := by
    rw [parse, scanned]
    exact congrArg (Except.mapError (Failure.toParseError input)) (parseTokens_of_error (by simp) failed)
  rw [located, fault] at refused
  exact ⟨_, before, lexeme, after, refused, rfl, by rw [placed, Nat.zero_add], rfl, tooDeep, none⟩

theorem parse_nested_too_deeply_groups :
    ∃ lexemes, tokenize (String.ofList (groupedTest 1 ++ ' ' :: groupedTest 129)) = .ok lexemes ∧
      Derives .orExpr 129 (lexemes.map Lexeme.token) ∧ ¬ Derives .orExpr 128 (lexemes.map Lexeme.token) ∧
      ∃ found, parse (String.ofList (groupedTest 1 ++ ' ' :: groupedTest 129)) = .error (.malformed found) ∧
        found.fault.message = "query nested too deeply" := by
  have scans := (scans_groupedTest 1).spaced (scans_groupedTest 129)
  rw [← String.toList_ofList (l := groupedTest 1 ++ ' ' :: groupedTest 129)] at scans
  obtain ⟨lexemes, scanned, same⟩ := tokenize_of_scans scans
  have derived : Derives .orExpr 129 (lexemes.map Lexeme.token) := by
    rw [same]
    exact ((derives_groupedTokens 128 1).andMore (derives_groupedTokens 0 129).andOne false).orOne
  have deep : ¬ Derives .orExpr 128 (lexemes.map Lexeme.token) := by
    obtain ⟨after, split⟩ := groupedTokens_succ 128
    rw [same, split, ← List.append_assoc]
    intro within
    refine within.not_tooDeep ⟨.inr rfl, ?_⟩
    -- the first group is closed, and does not count
    rw [openAfter, List.foldl_append, (derives_groupedTokens 0 1).foldl_openBehind, length_foldl_replicate]
    decide
  obtain ⟨found, _, _, _, refused, message, _⟩ := parse_nested_too_deeply scanned derived deep
  exact ⟨lexemes, scanned, derived, deep, found, refused, message⟩

end MediaSearch.Query
