import MediaSearch.Proofs.Query.Faults
import MediaSearch.Proofs.Query.OrderLists

set_option autoImplicit false

/-!
Where the caret of a syntax error stands. Positions count line feeds and characters, the printed line leaves
out a carriage return before its line feed, and the two agree since no error lies inside such a line end.
-/

namespace MediaSearch

namespace Text

variable {c : Char} {line before after : List Char}

def openLine (text : List Char) : List Char := (text.reverse.takeWhile (· != '\n')).reverse

def SplitsLineEnd (before after : List Char) : Prop :=
  before.getLast? = some '\r' ∧ after.head? = some '\n'

theorem openLine_append_of_ne (noFeed : c ≠ '\n') : openLine (before ++ [c]) = openLine before ++ [c] := by
  simp [openLine, noFeed]

theorem exists_openLine (text : List Char) :
    ∃ earlier, text = earlier ++ openLine text ∧ (earlier = [] ∨ earlier.getLast? = some '\n') := by
  refine ⟨(text.reverse.dropWhile (· != '\n')).reverse, ?_, ?_⟩
  · rw [openLine, ← List.reverse_append, List.takeWhile_append_dropWhile, List.reverse_reverse]
  · have stops := List.head?_dropWhile_not (· != '\n') text.reverse
    cases dropped : text.reverse.dropWhile (· != '\n') with
    | nil => exact .inl rfl
    | cons feed rest =>
      rw [dropped] at stops
      have isFeed : feed = '\n' := by simpa using stops
      exact .inr (by simp [isFeed])

theorem not_mem_openLine (text : List Char) : '\n' ∉ openLine text := by
  intro member
  have kept := List.all_eq_true.mp List.all_takeWhile _ (List.mem_reverse.mp member)
  exact absurd kept (by decide)

theorem takeWhile_append_feed (text line : List Char) :
    (text ++ '\n' :: line).takeWhile (· != '\n') = text.takeWhile (· != '\n') := by
  induction text with
  | nil => rfl
  | cons c text ih => simp only [List.cons_append, List.takeWhile_cons, ih]

-- Each line feed finishes one line, and what is left over is still open.
theorem drop_linesFrom (fresh : '\n' ∉ line) :
    (linesFrom line (before ++ after)).drop (before.count '\n') =
      linesFrom ((before.reverse ++ line).takeWhile (· != '\n')) after := by
  induction before generalizing line with
  | nil =>
    have all : ∀ c ∈ line, (c != '\n') = true := by
      intro c member
      rw [bne_iff_ne]
      rintro rfl
      exact fresh member
    have whole : (line ++ []).takeWhile (· != '\n') = line := Query.takeWhile_append_of_stop all nofun
    rw [List.append_nil] at whole
    simp [whole]
  | cons c before ih =>
    by_cases feed : c = '\n'
    · subst feed
      have rest := @ih [] List.not_mem_nil
      simpa [linesFrom, takeWhile_append_feed] using rest
    · have rest := @ih (c :: line) (by simp [fresh, Ne.symm feed])
      simpa [linesFrom, feed] using rest

-- What has been read of a line starts the line, unless it is taken back as a part of the line's end.
theorem linesFrom_head (apart : ¬ SplitsLineEnd line.reverse after) :
    line.reverse <+: (linesFrom line after).head?.getD [] := by
  induction after generalizing line with
  | nil => cases line <;> simp [linesFrom]
  | cons c after ih =>
    by_cases feed : c = '\n'
    · subst feed
      rcases line with _ | ⟨d, line⟩
      · simp
      · have kept : d ≠ '\r' := by
          rintro rfl
          exact apart ⟨by simp, rfl⟩
        simp [linesFrom, closedLine, kept]
    · by_cases inside : SplitsLineEnd (c :: line).reverse after
      · obtain ⟨isReturn, isFeed⟩ := inside
        rcases after with _ | ⟨d, after⟩
        · cases isFeed
        · obtain rfl : d = '\n' := by simpa using isFeed
          obtain rfl : c = '\r' := by simpa using isReturn
          simp [linesFrom, closedLine]
      · have longer := ih inside
        have shorter : line.reverse <+: (c :: line).reverse := by simp
        simpa [linesFrom, feed] using shorter.trans longer

theorem openLine_isPrefix (apart : ¬ SplitsLineEnd before after) :
    openLine before <+: ((linesFrom [] (before ++ after))[before.count '\n']?).getD [] := by
  rw [← List.head?_drop, drop_linesFrom List.not_mem_nil, List.append_nil]
  refine linesFrom_head ?_
  rintro ⟨isReturn, isFeed⟩
  refine apart ⟨?_, isFeed⟩
  obtain ⟨earlier, whole, -⟩ := exists_openLine before
  rw [whole, List.getLast?_append, openLine, isReturn, Option.some_or]

theorem not_splitsLineEnd (touches : after = [] ∨ Touches before after) :
    ¬ SplitsLineEnd before after := by
  rintro ⟨isReturn, isFeed⟩
  rcases touches with rfl | ⟨c, last, visible⟩ | ⟨c, first, visible⟩
  · cases isFeed
  · obtain rfl : c = '\r' := Option.some.inj (last.symm.trans isReturn)
    cases visible
  · obtain rfl : c = '\n' := Option.some.inj (first.symm.trans isFeed)
    cases visible

end Text

namespace Query

open Text (byteLength openLine)

-- The error lies between `before` and `after`, and the caret of its report stands under the first character
-- of `after`, if the printed line has it.
structure SyntaxError.Marks (before after : List Char) (error : SyntaxError) : Prop where
  whole : error.input.toList = before ++ after
  offset : error.offset = byteLength before
  line : error.position.line = before.count '\n' + 1
  column : ∃ earlier current, before = earlier ++ current ∧ (earlier = [] ∨ earlier.getLast? = some '\n') ∧
    '\n' ∉ current ∧ error.position.column = current.length
  source : error.sourceLine = ((Text.lines error.input)[error.position.line - 1]?).getD ""
  printed : ∃ hint, error.context = "query syntax error: " ++ error.fault.message ++ "\n  " ++
    error.sourceLine ++ "\n  " ++ String.ofList (List.replicate error.position.column ' ') ++ "^" ++ hint
  reaches : error.position.column ≤ error.sourceLine.length
  marked : ∀ c ∈ after.head?, c ≠ '\n' → ¬ ['\r', '\n'] <+: after →
    error.sourceLine.toList[error.position.column]? = some c

section Marks

variable {input : String} {before after : List Char}

theorem sourceLine_after (fault : Fault) (whole : input.toList = before ++ after) :
    (SyntaxError.mk fault input (byteLength before) (.after before)).sourceLine.toList =
      ((Text.linesFrom [] (before ++ after))[before.count '\n']?).getD [] := by
  simp only [SyntaxError.sourceLine, Text.lines, Text.Position.after, whole, Nat.add_sub_cancel,
    List.getElem?_map]
  cases (Text.linesFrom [] (before ++ after))[before.count '\n']? <;> simp

theorem column_after (before : List Char) :
    (Text.Position.after before).column = (openLine before).length := by
  simp [Text.Position.after, openLine]

theorem getElem?_line {c : Char} {rest : List Char} (noFeed : c ≠ '\n')
    (noEnd : ¬ ['\r', '\n'] <+: c :: rest) :
    (((Text.linesFrom [] (before ++ c :: rest))[before.count '\n']?).getD [])[(openLine before).length]? =
      some c := by
  have apart : ¬ Text.SplitsLineEnd (before ++ [c]) rest := by
    rintro ⟨isReturn, isFeed⟩
    obtain rfl : c = '\r' := by simpa using isReturn
    obtain ⟨rest, rfl⟩ := List.head?_eq_some_iff.mp isFeed
    exact noEnd ⟨rest, rfl⟩
  have starts := Text.openLine_isPrefix apart
  rw [Text.openLine_append_of_ne noFeed, List.append_assoc, List.singleton_append, List.count_append,
    List.count_singleton, if_neg (by simpa using noFeed), Nat.add_zero] at starts
  obtain ⟨others, whole⟩ := starts
  rw [← whole]
  simp

theorem marks_after (fault : Fault) (whole : input.toList = before ++ after)
    (apart : ¬ Text.SplitsLineEnd before after) :
    (SyntaxError.mk fault input (byteLength before) (.after before)).Marks before after where
  whole := whole
  offset := rfl
  line := rfl
  column := by
    obtain ⟨earlier, same, ends⟩ := Text.exists_openLine before
    exact ⟨earlier, openLine before, same, ends, Text.not_mem_openLine before, column_after before⟩
  source := rfl
  printed := ⟨_, rfl⟩
  reaches := by
    have starts := (Text.openLine_isPrefix apart).length_le
    rwa [← sourceLine_after fault whole, String.length_toList, ← column_after] at starts
  marked := by
    intro c first noFeed noEnd
    obtain ⟨rest, rfl⟩ := List.head?_eq_some_iff.mp first
    rw [sourceLine_after fault whole, column_after]
    exact getElem?_line noFeed noEnd

theorem ParseError.Placed.marks {error : ParseError} (placed : error.Placed input) :
    ∃ found before after, error = .malformed found ∧ found.input = input ∧
      found.offset ≤ byteLength input.toList ∧ found.Marks before after := by
  obtain ⟨fault, before, -, ⟨after, whole, touches⟩, rfl⟩ := placed
  refine ⟨_, before, after, rfl, rfl, ?_, marks_after fault whole (Text.not_splitsLineEnd touches)⟩
  rw [whole, Text.byteLength_append]
  exact Nat.le_add_right _ _

end Marks

theorem parseError_marks_place {input : String} {error : ParseError}
    (reported : tokenize input = .error error ∨ parse input = .error error ∨
      parseOrder input = .error error) :
    ∃ found before after, error = .malformed found ∧ found.input = input ∧
      found.offset ≤ byteLength input.toList ∧ found.Marks before after := by
  rcases reported with unscanned | unparsed | unordered
  · exact ((tokenize_ends input).of_error unscanned).marks
  · exact ((parse_ends input).of_error unparsed).marks
  · exact ((parseOrder_ends input).of_error unordered).marks

def secondLineClose : SyntaxError := ⟨.unexpectedClose, "title:é\r\n )", 11, ⟨2, 1⟩⟩

theorem parseError_marks_place_close :
    parse "title:é\r\n )" = .error (.malformed secondLineClose) ∧ secondLineClose.sourceLine = " )" ∧
      ∃ found before after, ParseError.malformed secondLineClose = .malformed found ∧
        found.input = "title:é\r\n )" ∧ found.offset ≤ byteLength "title:é\r\n )".toList ∧
        found.Marks before after := by
  have title : scanWord 0 ('t' :: "itle:é\r\n )".toList) =
      .ok ⟨[⟨.field "title", 0⟩, ⟨.operator .contains, 5⟩, ⟨.value "é", 6⟩], 8, ['\r', '\n', ' ', ')']⟩ := rfl
  have close : scanFrom 8 ['\r', '\n', ' ', ')'] = .ok [⟨.groupClose, 11⟩] := by
    rw [scanFrom_blank (by decide), scanFrom_blank (by decide), scanFrom_blank (by decide), scanFrom_close,
      scanFrom_nil]
    rfl
  have start : "title:é\r\n )".toList = 't' :: "itle:é\r\n )".toList := by decide
  have scanned : tokenize "title:é\r\n )" =
      .ok [⟨.field "title", 0⟩, ⟨.operator .contains, 5⟩, ⟨.value "é", 6⟩, ⟨.groupClose, 11⟩] := by
    rw [tokenize, start, scanFrom_word (by decide) title, close]
    rfl
  have failed : parse "title:é\r\n )" = .error (.malformed secondLineClose) := by
    rw [parse, scanned]
    simp only [parseTokens, parseExpr, parseAlternatives, parseOperands, parseOperand, parsePredicates,
      parsePredicate, startsPredicate, startsOperand, maxDepth, Bool.false_eq_true, if_false]
    rfl
  exact ⟨failed, by decide, parseError_marks_place (.inr (.inl failed))⟩

end Query

end MediaSearch
