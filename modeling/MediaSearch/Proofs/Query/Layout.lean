import MediaSearch.Proofs.Outcome
import MediaSearch.Proofs.Query.Scanning
import MediaSearch.Proofs.Text.Boundary

set_option autoImplicit false

namespace MediaSearch.Query

open Text (IsBoundary IsEdge IsPlace IsStop StartsVisibly byteLength isBlank isBoundary_start isEdge_start
  isEdge_takeWhile isWordChar sameIgnoringCase startsVisibly_cons)

def Token.WrittenAs : Token → List Char → Prop
  | .field name, text => text = name.toList
  | .operator op, text => text = op.symbol.toList
  | .value content, text => text = content.toList
  | .groupOpen, text => text = ['(']
  | .groupClose, text => text = [')']
  | .rangeOpen, text => text = ['[']
  | .rangeClose, text => text = [']']
  | .to, text => sameIgnoringCase text "TO".toList = true
  | .and, text => sameIgnoringCase text "AND".toList = true
  | .or, text => sameIgnoringCase text "OR".toList = true
  | .not, text => sameIgnoringCase text "NOT".toList = true

-- Tokens that are not complete without the next one, which stands right behind them.
def Token.isOpen : Token → Bool
  | .field _ | .operator _ => true
  | _ => false

-- A text that starts at byte `offset` and consists of these tokens. If `joined`, then the first of them
-- is there, and there is no white space before it.
inductive LaidOut : Bool → Nat → List Lexeme → List Char → Prop
  | done {offset : Nat} {gap : List Char} (blank : ∀ c ∈ gap, isBlank c = true) :
      LaidOut false offset [] gap
  | next {joined : Bool} {offset : Nat} {lexeme : Lexeme} {lexemes : List Lexeme}
      {gap written text : List Char} (blank : ∀ c ∈ gap, isBlank c = true)
      (noGap : joined = true → gap = []) (placed : lexeme.offset = offset + byteLength gap)
      (writes : lexeme.token.WrittenAs written) (nonempty : written ≠ [])
      (rest : LaidOut lexeme.token.isOpen (lexeme.offset + byteLength written) lexemes text) :
      LaidOut joined offset (lexeme :: lexemes) (gap ++ written ++ text)

namespace LaidOut

variable {joined : Bool} {offset : Nat} {lexemes : List Lexeme} {text : List Char}

theorem token {token : Token} {written : List Char} (writes : token.WrittenAs written)
    (nonempty : written ≠ [])
    (rest : LaidOut token.isOpen (offset + byteLength written) lexemes text) :
    LaidOut joined offset (⟨token, offset⟩ :: lexemes) (written ++ text) := by
  have atOnce : LaidOut joined offset (⟨token, offset⟩ :: lexemes) ([] ++ written ++ text) :=
    .next nofun (fun _ => rfl) rfl writes nonempty rest
  exact atOnce

theorem blank {c : Char} (isBlank : isBlank c = true)
    (rest : LaidOut false (offset + c.utf8Size) lexemes text) :
    LaidOut false offset lexemes (c :: text) := by
  cases rest with
  | done blank => exact .done (List.forall_mem_cons.mpr ⟨isBlank, blank⟩)
  | @next _ _ _ _ gap _ _ blank noGap placed writes nonempty rest =>
    have wider : ∀ d ∈ c :: gap, Text.isBlank d = true := List.forall_mem_cons.mpr ⟨isBlank, blank⟩
    refine .next wider nofun ?_ writes nonempty rest
    rw [placed, byteLength, Nat.add_assoc]

theorem boundary (laid : LaidOut joined offset lexemes text) :
    ∀ lexeme ∈ lexemes, IsBoundary offset text lexeme.offset := by
  induction laid with
  | done => simp
  | @next _ _ _ _ gap written text _ _ placed _ _ _ ih =>
    have whole := List.append_assoc gap written text
    refine List.forall_mem_cons.mpr ⟨.after whole ?_, fun lexeme member => .after whole ?_⟩
    · exact placed ▸ isBoundary_start
    · exact .after rfl (placed ▸ ih lexeme member)

theorem offset_le (laid : LaidOut joined offset lexemes text) :
    ∀ lexeme ∈ lexemes, offset ≤ lexeme.offset := by
  intro lexeme member
  obtain ⟨before, -, same⟩ := laid.boundary lexeme member
  omega

theorem increasing (laid : LaidOut joined offset lexemes text) :
    (lexemes.map Lexeme.offset).Pairwise (· < ·) := by
  induction laid with
  | done => exact .nil
  | next _ _ _ _ nonempty rest ih =>
    refine List.pairwise_cons.mpr ⟨fun position member => ?_, ih⟩
    obtain ⟨lexeme, later, rfl⟩ := List.mem_map.mp member
    have := rest.offset_le lexeme later
    have := Text.byteLength_pos nonempty
    omega

end LaidOut

theorem isBlank_eq_false_of_not_endsWord {c : Char} (within : (!endsWord c) = true) : isBlank c = false := by
  simp only [endsWord, Bool.not_eq_true', Bool.or_eq_false_iff] at within
  exact within.1.1

theorem Operator.symbol_endsVisibly (op : Operator) :
    ∃ c ∈ op.symbol.toList.getLast?, isBlank c = false := by
  cases op with
  | contains => exact ⟨':', by decide, rfl⟩
  | exactly | atMost | atLeast => exact ⟨'=', by decide, rfl⟩
  | regexp => exact ⟨'~', by decide, rfl⟩
  | less => exact ⟨'<', by decide, rfl⟩
  | greater => exact ⟨'>', by decide, rfl⟩

section Words

variable {text rest : List Char}

theorem operator?_eq {op : Operator} (read : operator? text = some (op, rest)) :
    text = op.symbol.toList ++ rest := by
  unfold operator? at read
  split at read <;> cases read <;> rfl

theorem quotedValue?_eq {value : List Char} (read : quotedValue? text = some (value, rest)) :
    '"' :: text = value ++ rest ∧ value ≠ [] := by
  unfold quotedValue? at read
  split at read
  · cases read
  · next quote tail dropped =>
    cases read
    have first : (quote != '"') = false := by
      have stops := List.head?_dropWhile_not (· != '"') text
      simpa [dropped] using stops
    obtain rfl : quote = '"' := by simpa using first
    have whole := List.takeWhile_append_dropWhile (p := (· != '"')) (l := text)
    rw [dropped] at whole
    exact ⟨by simp [whole], by simp⟩

theorem keyword?_writtenAs {word : List Char} {token : Token} (found : keyword? word = some token) :
    token.WrittenAs word ∧ token.isOpen = false := by
  unfold keyword? at found
  split at found
  · next isAnd =>
    cases found
    exact ⟨isAnd, rfl⟩
  · split at found
    · next isOr =>
      cases found
      exact ⟨isOr, rfl⟩
    · split at found
      · next isNot =>
        cases found
        exact ⟨isNot, rfl⟩
      · cases found

theorem boundToken_writtenAs (word : List Char) :
    (boundToken word).WrittenAs word ∧ (boundToken word).isOpen = false := by
  unfold boundToken
  split
  · next isTo => exact ⟨isTo, rfl⟩
  · exact ⟨String.toList_ofList.symm, rfl⟩

end Words

structure Scan.Reads (joined : Bool) (offset : Nat) (text : List Char) (scan : Scan) : Prop where
  laid : ∀ lexemes, LaidOut false scan.offset lexemes scan.rest →
    LaidOut joined offset (scan.lexemes ++ lexemes) text
  edge : ∀ position, IsEdge scan.offset scan.rest position → IsEdge offset text position

-- The faults of tokens that stand outside their block.
def Fault.isStray : Fault → Bool
  | .unexpectedToken _ | .closeExpected | .fieldExpected | .operatorExpected _ | .valueExpected _ _ => true
  | _ => false

structure Failure.Regular (offset : Nat) (text : List Char) (failure : Failure) : Prop where
  edge : IsEdge offset text failure.offset
  notStray : failure.fault.isStray = false

section Scans

variable {joined : Bool} {offset : Nat} {token : Token} {written text rest : List Char} {scan : Scan}
  {failure : Failure}

theorem Failure.Regular.after (whole : text = written ++ rest)
    (later : failure.Regular (offset + byteLength written) rest) : failure.Regular offset text :=
  ⟨later.edge.after whole, later.notStray⟩

theorem Failure.Regular.cons {c : Char} (later : failure.Regular (offset + c.utf8Size) rest) :
    failure.Regular offset (c :: rest) :=
  ⟨later.edge.cons, later.notStray⟩

theorem Scan.Reads.last (whole : text = written ++ rest) (writes : token.WrittenAs written)
    (nonempty : written ≠ []) (complete : token.isOpen = false) :
    Scan.Reads joined offset text ⟨[⟨token, offset⟩], offset + byteLength written, rest⟩ where
  laid _ laid := whole ▸ .token writes nonempty (complete ▸ laid)
  edge _ later := later.after whole

theorem Scan.Reads.cons (whole : text = written ++ rest) (writes : token.WrittenAs written)
    (nonempty : written ≠ []) (reads : scan.Reads token.isOpen (offset + byteLength written) rest) :
    (scan.cons ⟨token, offset⟩).Reads joined offset text where
  laid lexemes laid := whole ▸ .token writes nonempty (reads.laid lexemes laid)
  edge position later := (reads.edge position later).after whole

theorem Scan.Reads.blank {c : Char} (isBlank : isBlank c = true)
    (reads : scan.Reads false (offset + c.utf8Size) rest) : scan.Reads false offset (c :: rest) where
  laid lexemes laid := (reads.laid lexemes laid).blank isBlank
  edge position later := (reads.edge position later).cons

theorem scanRange_ends (start offset : Nat) (text : List Char) :
    Ends (Scan.Reads false offset text)
      (fun failure => failure = ⟨.unclosedRange, start⟩ ∨ failure.Regular offset text)
      (scanRange start offset text) := by
  fun_induction scanRange start offset text with
  | case1 => exact .error (.inl rfl)
  | case2 offset c rest blank ih =>
    exact ih.mono (fun _ reads => reads.blank blank) fun _ => Or.imp_right Failure.Regular.cons
  | case3 offset rest =>
    have close : ']' :: rest = [']'] ++ rest := rfl
    exact .ok (.last close rfl (by simp) rfl)
  | case4 => exact .error (.inr ⟨isEdge_start (startsVisibly_cons rfl), rfl⟩)
  | case5 offset rest value after found shorter _ _ ih =>
    obtain ⟨whole, nonempty⟩ := quotedValue?_eq found
    refine ih.map (fun _ reads => ?_) fun _ => Or.imp_right (Failure.Regular.after whole)
    exact .cons whole String.toList_ofList.symm nonempty reads
  | case6 offset c rest notBlank notClose noQuote word shorter =>
    rename_i ih
    obtain ⟨writes, complete⟩ := boundToken_writtenAs word
    have whole : c :: rest = word ++ rest.dropWhile (!endsBound ·) := by simp [word]
    refine ih.map (fun _ reads => ?_) fun _ => Or.imp_right (Failure.Regular.after whole)
    exact .cons whole writes (by simp [word]) (complete ▸ reads)

-- A value that is missing is missed at the operator's end, whatever stands behind it.
theorem scanOperand_ends (offset : Nat) (text : List Char) :
    Ends (Scan.Reads true offset text)
      (fun failure => failure = ⟨.operatorWithoutValue, offset⟩ ∨ failure.Regular offset text)
      (scanOperand offset text) := by
  rcases text with _ | ⟨c, rest⟩
  · exact .error (.inl rfl)
  · simp only [scanOperand]
    split
    · next opens =>
      subst opens
      have bracket : '[' :: rest = ['['] ++ rest := rfl
      refine (scanRange_ends offset (offset + 1) rest).map (fun _ reads => ?_) fun failure => ?_
      · exact .cons bracket rfl (by simp) reads
      · rintro (rfl | later)
        · exact .inr ⟨isEdge_start (startsVisibly_cons rfl), rfl⟩
        · exact .inr (.after bracket later)
    · split
      · next quote =>
        subst quote
        split
        · exact .error (.inr ⟨isEdge_start (startsVisibly_cons rfl), rfl⟩)
        · next value after found =>
          obtain ⟨whole, nonempty⟩ := quotedValue?_eq found
          exact .ok (.last whole String.toList_ofList.symm nonempty rfl)
      · split
        · exact .error (.inl rfl)
        · have whole : c :: rest = c :: rest.takeWhile (!endsWord ·) ++ rest.dropWhile (!endsWord ·) := by
            simp
          exact .ok (.last whole String.toList_ofList.symm (by simp) rfl)

theorem scanWord_ends (offset : Nat) (starts : StartsVisibly text) :
    Ends (Scan.Reads false offset text) (Failure.Regular offset text) (scanWord offset text) := by
  simp only [scanWord]
  split
  · next op operand found =>
    split
    · exact .error ⟨isEdge_takeWhile (fun _ => isBlank_eq_false_of_isWordChar) starts, rfl⟩
    · next named =>
      have whole : text = text.takeWhile isWordChar ++ (op.symbol.toList ++ operand) := by
        rw [← operator?_eq found, List.takeWhile_append_dropWhile]
      have isName : (Token.field (String.ofList (text.takeWhile isWordChar))).WrittenAs
          (text.takeWhile isWordChar) :=
        String.toList_ofList.symm
      have someSymbol : op.symbol.toList ≠ [] := by cases op <;> decide
      refine (scanOperand_ends _ operand).map (fun scan reads => ?_) fun failure => ?_
      · have afterField : Scan.Reads true (offset + byteLength (text.takeWhile isWordChar))
            (op.symbol.toList ++ operand) (scan.cons ⟨.operator op, _⟩) :=
          .cons rfl rfl someSymbol reads
        exact .cons whole isName (by simpa using named) afterField
      · rintro (rfl | later)
        · exact .after whole ⟨Text.isEdge_finish op.symbol_endsVisibly operand, rfl⟩
        · exact .after whole (.after rfl later)
  · split
    · next token found =>
      obtain ⟨writes, complete⟩ := keyword?_writtenAs found
      have someWord : text.takeWhile (!endsWord ·) ≠ [] := by
        intro none
        rw [none] at found
        cases found
      have whole := (List.takeWhile_append_dropWhile (p := (!endsWord ·)) (l := text)).symm
      exact .ok (.last whole writes someWord complete)
    · split
      · exact .error ⟨isEdge_start starts, rfl⟩
      · exact .error ⟨isEdge_takeWhile (fun _ => isBlank_eq_false_of_not_endsWord) starts, rfl⟩

theorem scanFrom_ends (offset : Nat) (text : List Char) :
    Ends (LaidOut false offset · text) (Failure.Regular offset text) (scanFrom offset text) := by
  fun_induction scanFrom offset text with
  | case1 => exact .ok (.done nofun)
  | case2 offset c rest blank ih => exact ih.mono (fun _ laid => laid.blank blank) fun _ => .cons
  | case3 offset rest blank ih =>
    have opens : Token.groupOpen.WrittenAs ['('] := rfl
    exact ih.map (fun _ laid => .token opens (by simp) laid) fun _ later => .cons later
  | case4 offset rest blank notOpen ih =>
    have closes : Token.groupClose.WrittenAs [')'] := rfl
    exact ih.map (fun _ laid => .token closes (by simp) laid) fun _ later => .cons later
  | case5 offset c rest notBlank notOpen notClose failure failed =>
    have starts : StartsVisibly (c :: rest) := startsVisibly_cons (Bool.eq_false_iff.mpr notBlank)
    exact .error ((scanWord_ends _ starts).of_error failed)
  | case6 offset c rest notBlank notOpen notClose scan word shorter ih =>
    have starts : StartsVisibly (c :: rest) := startsVisibly_cons (Bool.eq_false_iff.mpr notBlank)
    have reads := (scanWord_ends _ starts).of_ok word
    exact ih.map reads.laid fun _ regular => ⟨reads.edge _ regular.edge, regular.notStray⟩

end Scans

structure Failure.Located (text : List Char) (failure : Failure) : Prop where
  place : IsPlace text failure.offset
  notStray : failure.fault.isStray = false

theorem Failure.Regular.located {text : List Char} {failure : Failure} (regular : failure.Regular 0 text) :
    failure.Located text :=
  ⟨regular.edge.isPlace, regular.notStray⟩

def ParseError.Placed (input : String) (error : ParseError) : Prop :=
  ∃ fault before, fault.isStray = false ∧ IsStop input.toList before ∧
    error = .malformed ⟨fault, input, byteLength before, .after before⟩

theorem SyntaxError.at?_eq_some_iff {fault : Fault} {input : String} {offset : Nat} {error : SyntaxError} :
    at? fault input offset = some error ↔ ∃ before, before <+: input.toList ∧
      byteLength before = min offset (byteLength input.toList) ∧
      error = ⟨fault, input, byteLength before, .after before⟩ := by
  simp only [at?, Option.map_eq_some_iff, Text.before?_eq_some_iff]
  constructor
  · rintro ⟨before, ⟨starts, length⟩, rfl⟩
    exact ⟨before, starts, length, by rw [length]⟩
  · rintro ⟨before, starts, length, rfl⟩
    exact ⟨before, ⟨starts, length⟩, by rw [length]⟩

theorem SyntaxError.at?_byteLength (fault : Fault) {input : String} {before : List Char}
    (starts : before <+: input.toList) :
    at? fault input (byteLength before) = some ⟨fault, input, byteLength before, .after before⟩ := by
  refine at?_eq_some_iff.mpr ⟨before, starts, ?_, rfl⟩
  obtain ⟨after, whole⟩ := starts
  rw [← whole, Text.byteLength_append]
  omega

theorem Failure.toParseError_of_isPrefix {input : String} {failure : Failure} {before : List Char}
    (starts : before <+: input.toList) (same : failure.offset = byteLength before) :
    failure.toParseError input = .malformed ⟨failure.fault, input, byteLength before, .after before⟩ := by
  rw [toParseError, same, SyntaxError.at?_byteLength failure.fault starts]

theorem Failure.Located.placed {input : String} {failure : Failure}
    (located : failure.Located input.toList) : (failure.toParseError input).Placed input := by
  obtain ⟨⟨before, stop, same⟩, notStray⟩ := located
  exact ⟨failure.fault, before, notStray, stop, toParseError_of_isPrefix stop.isPrefix same⟩

theorem tokenize_ends (input : String) :
    Ends (LaidOut false 0 · input.toList) (ParseError.Placed input) (tokenize input) :=
  (scanFrom_ends 0 input.toList).mapError fun _ regular => regular.located.placed

theorem tokenize_lossless {input : String} {lexemes : List Lexeme}
    (scanned : tokenize input = .ok lexemes) :
    (lexemes.map Lexeme.offset).Pairwise (· < ·) ∧
      (∀ lexeme ∈ lexemes, IsBoundary 0 input.toList lexeme.offset) ∧
      LaidOut false 0 lexemes input.toList := by
  have laid := (tokenize_ends input).of_ok scanned
  exact ⟨laid.increasing, laid.boundary, laid⟩

theorem tokenize_lossless_nested :
    ∃ lexemes, tokenize " title:é nOT(year<=5)" = .ok lexemes ∧
      lexemes.map Lexeme.offset = [1, 6, 7, 10, 13, 14, 18, 20, 21] ∧
      (lexemes.map Lexeme.offset).Pairwise (· < ·) ∧
      (∀ lexeme ∈ lexemes, IsBoundary 0 " title:é nOT(year<=5)".toList lexeme.offset) ∧
      LaidOut false 0 lexemes " title:é nOT(year<=5)".toList := by
  have blank : isBlank ' ' = true := by decide
  have title : scanWord 1 ('t' :: "itle:é nOT(year<=5)".toList) =
      .ok ⟨[⟨.field "title", 1⟩, ⟨.operator .contains, 6⟩, ⟨.value "é", 7⟩], 9,
        ' ' :: 'n' :: "OT(year<=5)".toList⟩ := rfl
  have negation : scanWord 10 ('n' :: "OT(year<=5)".toList) =
      .ok ⟨[⟨.not, 10⟩], 13, '(' :: 'y' :: "ear<=5)".toList⟩ := rfl
  have year : scanWord 14 ('y' :: "ear<=5)".toList) =
      .ok ⟨[⟨.field "year", 14⟩, ⟨.operator .atMost, 18⟩, ⟨.value "5", 20⟩], 21, [')']⟩ := rfl
  -- from the last token to the first
  have close := scanFrom_close.trans (congrArg (Except.map _) (@scanFrom_nil 22))
  have group := scanFrom_open.trans (congrArg (Except.map _)
    ((scanFrom_word (by decide) year).trans (congrArg (Except.map _) close)))
  have negated := (scanFrom_word (by decide) negation).trans (congrArg (Except.map _) group)
  have titled := (scanFrom_word (by decide) title).trans (congrArg (Except.map _)
    ((scanFrom_blank blank).trans negated))
  have start : " title:é nOT(year<=5)".toList = ' ' :: 't' :: "itle:é nOT(year<=5)".toList := by decide
  have scanned : tokenize " title:é nOT(year<=5)" =
      .ok [⟨.field "title", 1⟩, ⟨.operator .contains, 6⟩, ⟨.value "é", 7⟩, ⟨.not, 10⟩, ⟨.groupOpen, 13⟩,
        ⟨.field "year", 14⟩, ⟨.operator .atMost, 18⟩, ⟨.value "5", 20⟩, ⟨.groupClose, 21⟩] := by
    rw [tokenize, start, (scanFrom_blank blank).trans titled]
    rfl
  exact ⟨_, scanned, rfl, tokenize_lossless scanned⟩

end MediaSearch.Query
