import MediaSearch.Proofs.Query.Layout
import MediaSearch.Proofs.Query.NormalForm

set_option autoImplicit false

namespace MediaSearch.Query

open Text (IsEdge IsPlace StartsVisibly byteLength isEdge_start isPlace_finish startsVisibly_cons)

section Blocks

variable {token : Token} {tokens after : List Token}

theorem Blocks.startsBlock (blocks : Blocks (token :: after)) :
    token ∈ marks ∨ ∃ name, token = .field name := by
  generalize whole : token :: after = tokens at blocks
  cases blocks with
  | none => cases whole
  | more first rest =>
    cases first with
    | mark member =>
      cases whole
      exact .inl member
    | test named follows =>
      cases whole
      exact .inr ⟨_, rfl⟩

theorem Blocks.ofField {name : String} {lexemes : List Lexeme}
    (blocks : Blocks (.field name :: lexemes.map Lexeme.token)) :
    ∃ op start offset rest, lexemes = ⟨.operator op, start⟩ :: rest ∧
      ((∃ value others, rest = ⟨.value value, offset⟩ :: others) ∨
        ∃ others, rest = ⟨.rangeOpen, offset⟩ :: others) := by
  generalize whole : Token.field name :: lexemes.map Lexeme.token = tokens at blocks
  cases blocks with
  | none => cases whole
  | more first rest =>
    cases first with
    | mark member =>
      cases whole
      simp [marks] at member
    | test named follows =>
      obtain ⟨-, tail⟩ := List.cons.inj whole
      obtain ⟨⟨_, start⟩, rest, rfl, rfl, operand⟩ := List.map_eq_cons_iff.mp tail
      cases follows with
      | value written =>
        obtain ⟨⟨_, offset⟩, others, rfl, rfl, -⟩ := List.map_eq_cons_iff.mp operand
        exact ⟨_, start, offset, _, rfl, .inl ⟨_, others, rfl⟩⟩
      | range parts =>
        obtain ⟨⟨_, offset⟩, others, rfl, rfl, -⟩ := List.map_eq_cons_iff.mp operand
        exact ⟨_, start, offset, _, rfl, .inr ⟨others, rfl⟩⟩

theorem Blocks.closes (blocks : Blocks (token :: after)) (ends : EndsOperands (token :: after))
    (noOr : opensOr (token :: after) = false) : token = .groupClose := by
  obtain ⟨noAnd, noOperand⟩ := ends
  rcases blocks.startsBlock with member | ⟨name, rfl⟩
  · simp only [marks, List.mem_cons, List.not_mem_nil, or_false] at member
    rcases member with rfl | rfl | rfl | rfl | rfl
    · cases noOperand
    · rfl
    · cases noAnd
    · cases noOr
    · cases noOperand
  · cases noOperand

theorem IsQuoted.startsVisibly {text : List Char} (quoted : IsQuoted text) : StartsVisibly text := by
  obtain ⟨inner, rfl, -⟩ := quoted
  exact startsVisibly_cons rfl

theorem IsBound.startsVisibly {text : List Char} (bound : IsBound text) : StartsVisibly text := by
  rcases bound with quoted | bare
  · exact quoted.startsVisibly
  · exact Text.startsVisibly_of_all bare.nonempty fun c member => (bare.plain c member).1

def Token.IsVisible : Token → Prop
  | .field name => StartsVisibly name.toList
  | .value text => StartsVisibly text.toList
  | _ => True

theorem IsOperand.visible {op : Operator} (operand : IsOperand op tokens) :
    ∀ token ∈ tokens, token.IsVisible := by
  cases operand with
  | @value text written =>
    have starts : StartsVisibly text.toList := by
      rcases written with quoted | bare
      · exact quoted.startsVisibly
      · exact Text.startsVisibly_of_all bare.nonempty fun c member => (bare.plain c member).1
    exact List.forall_mem_singleton.mpr starts
  | range parts =>
    intro token member
    simp only [List.mem_cons, List.mem_append, List.not_mem_nil, or_false] at member
    rcases member with rfl | inside | rfl
    · trivial
    · rcases parts token inside with rfl | ⟨text, rfl, bound⟩
      · trivial
      · exact bound.startsVisibly
    · trivial

theorem IsBlock.visible (block : IsBlock tokens) : ∀ token ∈ tokens, token.IsVisible := by
  cases block with
  | @mark token member =>
    refine List.forall_mem_singleton.mpr ?_
    cases token with
    | field name => simp [marks] at member
    | value text => simp [marks] at member
    | _ => trivial
  | @test field _ _ named follows =>
    have name : StartsVisibly field.toList :=
      Text.startsVisibly_of_all named.nonempty fun c member =>
        isBlank_eq_false_of_isWordChar (named.word c member)
    exact List.forall_mem_cons.mpr ⟨name, List.forall_mem_cons.mpr ⟨trivial, follows.visible⟩⟩

theorem Blocks.visible (blocks : Blocks tokens) : ∀ token ∈ tokens, token.IsVisible := by
  induction blocks with
  | none => simp
  | more first rest ih => exact List.forall_mem_append.mpr ⟨first.visible, ih⟩

def Token.HasText : Token → Prop
  | .field name => name ≠ ""
  | .value text => text ≠ ""
  | _ => True

theorem Token.IsVisible.hasText (visible : token.IsVisible) : token.HasText := by
  cases token with
  | field name | value text =>
    rintro rfl
    exact StartsVisibly.ne_nil visible rfl
  | _ => trivial

theorem Blocks.hasText (blocks : Blocks tokens) : ∀ token ∈ tokens, token.HasText :=
  fun token member => (blocks.visible token member).hasText

theorem Token.WrittenAs.startsVisibly {written : List Char} (writes : token.WrittenAs written)
    (visible : token.IsVisible) : StartsVisibly written := by
  cases token with
  | field name | value text =>
    rw [show written = _ from writes]
    exact visible
  | operator op =>
    rw [show written = op.symbol.toList from writes]
    cases op <;> exact ⟨_, rfl, rfl⟩
  | groupOpen | groupClose | rangeOpen | rangeClose =>
    rw [show written = _ from writes]
    exact startsVisibly_cons rfl
  -- the words, in any case of their letters
  | _ => exact Text.startsVisibly_of_sameIgnoringCase writes ⟨_, rfl, rfl⟩

theorem LaidOut.edge {joined : Bool} {offset : Nat} {lexemes : List Lexeme} {text : List Char}
    (laid : LaidOut joined offset lexemes text) (visible : ∀ lexeme ∈ lexemes, lexeme.token.IsVisible) :
    ∀ lexeme ∈ lexemes, IsEdge offset text lexeme.offset := by
  induction laid with
  | done => simp
  | @next _ _ _ _ gap written text _ _ placed writes _ _ ih =>
    obtain ⟨first, others⟩ := List.forall_mem_cons.mp visible
    have whole := List.append_assoc gap written text
    refine List.forall_mem_cons.mpr ⟨.after whole ?_, fun lexeme member => .after whole ?_⟩
    · exact placed ▸ isEdge_start ((writes.startsVisibly first).append text)
    · exact .after rfl (placed ▸ ih others lexeme member)

end Blocks

section Parser

variable {text : List Char} {lexeme : Lexeme} {lexemes : List Lexeme}

def Bounded (text : List Char) (lexemes : List Lexeme) : Prop :=
  ∀ lexeme ∈ lexemes, IsPlace text lexeme.offset

structure Readable (text : List Char) (lexemes : List Lexeme) : Prop where
  blocks : Blocks (lexemes.map Lexeme.token)
  bounded : Bounded text lexemes

theorem Bounded.tail (bounded : Bounded text (lexeme :: lexemes)) : Bounded text lexemes :=
  (List.forall_mem_cons.mp bounded).2

theorem Bounded.offsetOf (bounded : Bounded text lexemes) :
    IsPlace text (offsetOf (byteLength text) lexemes) := by
  cases lexemes with
  | nil => exact isPlace_finish
  | cons lexeme lexemes => exact bounded lexeme List.mem_cons_self

theorem Readable.mark (readable : Readable text (lexeme :: lexemes)) (isMark : lexeme.token ∈ marks) :
    Readable text lexemes :=
  ⟨readable.blocks.ofMark isMark, readable.bounded.tail⟩

theorem Readable.located {fault : Fault} (readable : Readable text (lexeme :: lexemes))
    (notStray : fault.isStray = false) : Failure.Located text ⟨fault, lexeme.offset⟩ :=
  ⟨readable.bounded lexeme List.mem_cons_self, notStray⟩

def Leaves {α : Type} (left : List Lexeme → Prop) {lexemes : List Lexeme}
    (read : α × { rest : List Lexeme // rest.length < lexemes.length }) : Prop :=
  left read.2.1

theorem parseBounds_ends (bounded : Bounded text lexemes) :
    Ends (Leaves (Bounded text)) (Failure.Located text) (parseBounds (byteLength text) lexemes) := by
  unfold parseBounds
  split
  · exact .ok bounded.tail.tail.tail.tail
  · exact .error ⟨bounded.tail.tail.tail.offsetOf, rfl⟩
  · exact .error ⟨bounded.tail.tail.offsetOf, rfl⟩
  · exact .error ⟨bounded.tail.offsetOf, rfl⟩
  · exact .error ⟨bounded.offsetOf, rfl⟩

theorem parsePredicate_ends (readable : Readable text lexemes) (starts : startsPredicate lexemes = true) :
    Ends (Leaves (Readable text)) (Failure.Located text)
      (parsePredicate (byteLength text) lexemes) := by
  obtain ⟨blocks, bounded⟩ := readable
  unfold startsPredicate at starts
  split at starts
  · next field _ lexemes =>
    obtain ⟨op, start, offset, rest, rfl, ⟨value, others, rfl⟩ | ⟨others, rfl⟩⟩ := Blocks.ofField blocks
    · have left := ((SpelledTest.compare field op value).canonical blocks).2
      exact .ok ⟨left, bounded.tail.tail.tail⟩
    · have inside := parseBounds_ends bounded.tail.tail.tail
      rw [parsePredicate]
      split
      · next range =>
        split
        · next failed => exact .error (inside.of_error failed)
        · next low high after _ found =>
          have spelled := parseBounds_ok found
          simp only [List.map_cons, spelled] at blocks
          have left := ((SpelledTest.between field low high range).canonical blocks).2
          exact .ok ⟨left, inside.of_ok found⟩
      · exact .error ⟨bounded.tail.tail.offsetOf, rfl⟩
  · cases starts

theorem parsePredicates_ends (readable : Readable text lexemes)
    (starts : startsPredicate lexemes = true) :
    Ends (Leaves (Readable text)) (Failure.Located text)
      (parsePredicates (byteLength text) lexemes) := by
  fun_induction parsePredicates (byteLength text) lexemes with
  | case1 lexemes failure failed => exact .error ((parsePredicate_ends readable starts).of_error failed)
  | case2 lexemes predicate after shorter first more failure failed ih =>
    have left := (parsePredicate_ends readable starts).of_ok first
    exact .error ((ih left more).of_error failed)
  | case3 lexemes predicate after shorter first more predicates final shorterStill others ih =>
    have left := (parsePredicate_ends readable starts).of_ok first
    exact .ok ((ih left more).of_ok others)
  | case4 lexemes predicate after shorter first last =>
    exact .ok ((parsePredicate_ends readable starts).of_ok first)

section Operands

variable {operand : (lexemes : List Lexeme) → Parsed Expr lexemes}

def ReadsOperand (text : List Char) (operand : (lexemes : List Lexeme) → Parsed Expr lexemes) : Prop :=
  ∀ lexemes, Readable text lexemes →
    Ends (Leaves (Readable text)) (Failure.Located text) (operand lexemes)

theorem parseOperands_ends (each : ReadsOperand text operand) (readable : Readable text lexemes) :
    Ends (Leaves fun rest => Readable text rest ∧ EndsOperands (rest.map Lexeme.token))
      (Failure.Located text) (parseOperands operand lexemes) := by
  fun_induction parseOperands operand lexemes with
  | case1 lexemes failure failed => exact .error ((each lexemes readable).of_error failed)
  | case2 lexemes first offset afterAnd _ failure failed shorter head ih =>
    have left : Readable text (_ :: afterAnd) := (each lexemes readable).of_ok head
    exact .error ((ih (left.mark (by simp [marks]))).of_error failed)
  | case3 lexemes first offset afterAnd _ others final shorterStill tail shorter head ih =>
    have left : Readable text (_ :: afterAnd) := (each lexemes readable).of_ok head
    exact .ok ((ih (left.mark (by simp [marks]))).of_ok tail)
  | case4 lexemes first after _ noAnd another failure failed shorter head ih =>
    have left := (each lexemes readable).of_ok head
    exact .error ((ih left).of_error failed)
  | case5 lexemes first after _ noAnd another others final shorterStill tail shorter head ih =>
    have left := (each lexemes readable).of_ok head
    exact .ok ((ih left).of_ok tail)
  | case6 lexemes first after _ noAnd last shorter head =>
    have left := (each lexemes readable).of_ok head
    refine .ok ⟨left, ?_, by rw [← startsOperand_eq]; simpa using last⟩
    rcases after with _ | ⟨⟨token, offset⟩, after⟩
    · rfl
    · cases token with
      | and => exact (noAnd offset after shorter rfl HEq.rfl).elim
      | _ => rfl

structure AfterExpr (text : List Char) (rest : List Lexeme) : Prop where
  readable : Readable text rest
  ends : EndsOperands (rest.map Lexeme.token)
  noOr : opensOr (rest.map Lexeme.token) = false

theorem AfterExpr.closes (left : AfterExpr text (lexeme :: lexemes)) : lexeme.token = .groupClose :=
  left.readable.blocks.closes left.ends left.noOr

theorem parseAlternatives_ends (each : ReadsOperand text operand) (readable : Readable text lexemes) :
    Ends (Leaves (AfterExpr text)) (Failure.Located text) (parseAlternatives operand lexemes) := by
  fun_induction parseAlternatives operand lexemes with
  | case1 lexemes failure failed => exact .error ((parseOperands_ends each readable).of_error failed)
  | case2 lexemes operands offset afterOr _ failure failed shorter head ih =>
    have left : Readable text (_ :: afterOr) := ((parseOperands_ends each readable).of_ok head).1
    exact .error ((ih (left.mark (by simp [marks]))).of_error failed)
  | case3 lexemes operands offset afterOr _ others final shorterStill tail shorter head ih =>
    have left : Readable text (_ :: afterOr) := ((parseOperands_ends each readable).of_ok head).1
    exact .ok ((ih (left.mark (by simp [marks]))).of_ok tail)
  | case4 lexemes operands after _ noOr shorter head =>
    obtain ⟨left, ends⟩ := (parseOperands_ends each readable).of_ok head
    refine .ok ⟨left, ends, ?_⟩
    rcases after with _ | ⟨⟨token, offset⟩, after⟩
    · rfl
    · cases token with
      | or => exact (noOr offset after shorter rfl HEq.rfl).elim
      | _ => rfl

theorem parseExpr_ends (each : ReadsOperand text operand) (readable : Readable text lexemes) :
    Ends (Leaves (AfterExpr text)) (Failure.Located text) (parseExpr operand lexemes) := by
  have alternatives := parseAlternatives_ends each readable
  unfold parseExpr
  split
  · next failed => exact .error (alternatives.of_error failed)
  · next found => exact .ok (alternatives.of_ok found)

theorem parseGroup_ends {start : Nat} (each : ReadsOperand text operand)
    (opens : IsPlace text start) (readable : Readable text lexemes) :
    Ends (Leaves (Readable text)) (Failure.Located text) (parseGroup start operand lexemes) := by
  have inside := parseExpr_ends each readable
  unfold parseGroup
  split
  · exact .error (readable.located rfl)
  · split
    · next failed => exact .error (inside.of_error failed)
    · next found =>
      have left := inside.of_ok found
      split
      · exact .error ⟨opens, rfl⟩
      · exact .ok (left.readable.mark (by simp [marks]))
      · next notClose => exact (notClose left.closes).elim

end Operands

theorem parseOperand_tests_ends {depth offset : Nat} {name : String}
    (readable : Readable text (⟨.field name, offset⟩ :: lexemes)) :
    Ends (Leaves (Readable text)) (Failure.Located text)
      (parseOperand (byteLength text) depth (⟨.field name, offset⟩ :: lexemes)) := by
  have tests := parsePredicates_ends readable rfl
  cases depth
  all_goals
    rw [parseOperand]
    split
    · next failed => exact .error (tests.of_error failed)
    · next found => exact .ok (tests.of_ok found)

theorem parseOperand_ends (depth : Nat) : ReadsOperand text (parseOperand (byteLength text) depth) := by
  induction depth with
  | zero =>
    intro lexemes readable
    rcases lexemes with _ | ⟨⟨token, offset⟩, lexemes⟩
    · exact .error ⟨readable.bounded.offsetOf, rfl⟩
    · rcases readable.blocks.startsBlock with member | ⟨name, rfl⟩
      · simp only [marks, List.mem_cons, List.not_mem_nil, or_false] at member
        rcases member with rfl | rfl | rfl | rfl | rfl
        all_goals exact .error (readable.located rfl)
      · exact parseOperand_tests_ends readable
  | succ depth ih =>
    intro lexemes readable
    rcases lexemes with _ | ⟨⟨token, offset⟩, lexemes⟩
    · exact .error ⟨readable.bounded.offsetOf, rfl⟩
    · rcases readable.blocks.startsBlock with member | ⟨name, rfl⟩
      · have inside := readable.mark member
        simp only [marks, List.mem_cons, List.not_mem_nil, or_false] at member
        rcases member with rfl | rfl | rfl | rfl | rfl
        · have group := parseGroup_ends ih readable.bounded.offsetOf inside
          rw [parseOperand]
          split
          · next failed => exact .error (group.of_error failed)
          · next found => exact .ok (group.of_ok found)
        · exact .error (readable.located rfl)
        · exact .error (readable.located rfl)
        · exact .error (readable.located rfl)
        · have operand := ih lexemes inside
          rw [parseOperand]
          split
          · next failed => exact .error (operand.of_error failed)
          · next found => exact .ok (operand.of_ok found)
      · exact parseOperand_tests_ends readable

theorem parseTokens_ends (readable : Readable text lexemes) :
    Ends (fun _ => True) (Failure.Located text) (parseTokens (byteLength text) lexemes) := by
  have whole := parseExpr_ends (parseOperand_ends maxDepth) readable
  unfold parseTokens
  split
  · exact .error ⟨readable.bounded.offsetOf, rfl⟩
  · split
    · next failed => exact .error (whole.of_error failed)
    · next found =>
      have left := whole.of_ok found
      split
      · exact .ok trivial
      · exact .error (left.readable.located rfl)
      · next notClose => exact (notClose left.closes).elim

end Parser

theorem parse_ends (input : String) :
    Ends (fun _ => True) (ParseError.Placed input) (parse input) := by
  unfold parse
  split
  · next failed => exact .error ((tokenize_ends input).of_error failed)
  · next lexemes scanned =>
    have laid := (tokenize_ends input).of_ok scanned
    have blocks := tokenize_blocks scanned
    have edges := laid.edge fun lexeme member => blocks.visible _ (List.mem_map_of_mem member)
    have readable : Readable input.toList lexemes :=
      ⟨blocks, fun lexeme member => (edges lexeme member).isPlace⟩
    exact (parseTokens_ends readable).mapError fun _ located => located.placed

theorem parse_meets_no_stray_token {input : String} :
    (∀ lexemes, tokenize input = .ok lexemes →
      Blocks (lexemes.map Lexeme.token) ∧ ∀ lexeme ∈ lexemes, lexeme.token.HasText) ∧
    ∀ error, parse input = .error error →
      ∃ found, error = .malformed found ∧ found.fault.isStray = false := by
  constructor
  · intro lexemes scanned
    have blocks := tokenize_blocks scanned
    exact ⟨blocks, fun lexeme member => blocks.hasText _ (List.mem_map_of_mem member)⟩
  · intro error failed
    obtain ⟨fault, before, notStray, -, rfl⟩ := (parse_ends input).of_error failed
    exact ⟨_, rfl, notStray⟩

theorem parse_meets_no_stray_token_range :
    ∃ lexemes error, tokenize "year:[5]" = .ok lexemes ∧ parse "year:[5]" = .error error ∧
      (Blocks (lexemes.map Lexeme.token) ∧ ∀ lexeme ∈ lexemes, lexeme.token.HasText) ∧
      error = .malformed ⟨.toExpected, "year:[5]", 7, ⟨1, 7⟩⟩ ∧
      ∃ found, error = .malformed found ∧ found.fault.isStray = false := by
  have bound : scanRange 5 6 ['5', ']'] = .ok ⟨[⟨.value "5", 6⟩, ⟨.rangeClose, 7⟩], 8, []⟩ :=
    (scanRange_word (by decide) (by decide)).trans (congrArg (Except.map _) scanRange_close)
  have operand : scanOperand 5 ['[', '5', ']'] =
      .ok ⟨[⟨.rangeOpen, 5⟩, ⟨.value "5", 6⟩, ⟨.rangeClose, 7⟩], 8, []⟩ :=
    congrArg (Except.map (Scan.cons ⟨.rangeOpen, 5⟩)) bound
  have test : scanWord 0 ('y' :: "ear:[5]".toList) = (scanOperand 5 ['[', '5', ']']).map
      fun scan => Scan.cons ⟨.field "year", 0⟩ (Scan.cons ⟨.operator .contains, 4⟩ scan) := rfl
  have word := test.trans (congrArg (Except.map _) operand)
  have start : "year:[5]".toList = 'y' :: "ear:[5]".toList := by decide
  have scanned : tokenize "year:[5]" = .ok [⟨.field "year", 0⟩, ⟨.operator .contains, 4⟩,
      ⟨.rangeOpen, 5⟩, ⟨.value "5", 6⟩, ⟨.rangeClose, 7⟩] := by
    rw [tokenize, start, (scanFrom_word (by decide) word).trans (congrArg (Except.map _) scanFrom_nil)]
    rfl
  have failed : parse "year:[5]" = .error (.malformed ⟨.toExpected, "year:[5]", 7, ⟨1, 7⟩⟩) := by
    rw [parse, scanned]
    simp only [parseTokens, parseExpr, parseAlternatives, parseOperands, parseOperand, parsePredicates,
      parsePredicate, parseBounds, takesRange, maxDepth, if_true, offsetOf]
    rfl
  exact ⟨_, _, scanned, failed, parse_meets_no_stray_token.1 _ scanned, rfl,
    parse_meets_no_stray_token.2 _ failed⟩

end MediaSearch.Query
