import MediaSearch.Toml.Text
import MediaSearch.Toml.Writer

set_option autoImplicit false

namespace MediaSearch.Toml

def startsBlank (c : Char) : Bool := isSpace c || c == '\n' || c == '\r'

-- How a character may stand between double quotes. A backslash before a blank would hide a line break.
inductive WrittenChar (c : Char) : List Char → Prop
  | escaped (letter : Char) (code : List Char) (visible : startsBlank letter = false)
      (reads : ∀ rest, escape? (letter :: (code ++ rest)) = some (c, rest)) :
      WrittenChar c ('\\' :: letter :: code)
  | plain (isPlain : isPlain c = true) (notQuote : c ≠ '"') (notBackslash : c ≠ '\\') : WrittenChar c [c]

theorem WrittenChar.first {c : Char} {chars : List Char} (written : WrittenChar c chars) :
    ∃ first more, chars = first :: more ∧ first ≠ '"' ∧ isPlain first = true := by
  cases written with
  | escaped letter code => exact ⟨'\\', letter :: code, rfl, by decide, by decide⟩
  | plain isPlain notQuote => exact ⟨c, [], rfl, notQuote, isPlain⟩

theorem writtenChar_letter {c letter : Char} (visible : startsBlank letter = false)
    (stands : letterEscape? letter = some c) : WrittenChar c ['\\', letter] := by
  refine .escaped letter [] visible fun rest => ?_
  simp [escape?, stands]

theorem writtenChar_quote : WrittenChar '"' ['\\', '"'] := writtenChar_letter (by decide) rfl

-- Controls are ASCII, so there are few digits to look at.
theorem codeEscape_digits {c : Char} (control : isControl c = true) :
    ∃ digits, codeEscape c = '\\' :: 'u' :: digits ∧ digits.length = 4 ∧
      hexNumber? 0 digits = some c.toNat := by
  have ascii : c.toNat < 128 := by
    simp only [isControl, Bool.or_eq_true, Bool.and_eq_true, decide_eq_true_eq, beq_iff_eq] at control
    omega
  have each : ∀ code < 128, ((codeEscape (Char.ofNat code)).drop 2).length = 4 ∧
      hexNumber? 0 ((codeEscape (Char.ofNat code)).drop 2) = some code := by decide
  have digits := each c.toNat ascii
  rw [Char.ofNat_toNat] at digits
  exact ⟨(codeEscape c).drop 2, rfl, digits⟩

theorem codeEscape_written {c : Char} (control : isControl c = true) :
    WrittenChar c (codeEscape c) := by
  obtain ⟨digits, written, length, number⟩ := codeEscape_digits control
  rw [written]
  refine .escaped 'u' digits (by decide) fun rest => ?_
  have isCode : letterEscape? 'u' = none ∧ codeLength? 'u' = some 4 := by decide
  have valid : c.toNat.isValidChar := c.valid
  simp only [escape?, isCode, codeEscape?, ← length, List.length_append, List.take_left, List.drop_left,
    number, if_pos valid, Char.ofNat_toNat]
  exact if_neg (by omega)

theorem isPlain_of_isControl {c : Char} (notControl : isControl c = false) (notBreak : c ≠ '\n') :
    isPlain c = true := by
  by_cases tab : c = '\t'
  · simp [isPlain, tab]
  · simp [isControl, notBreak, tab] at notControl
    simp [isPlain]
    omega

theorem writeChar_written {c : Char} (notQuote : c ≠ '"') (notBreak : c ≠ '\n') :
    WrittenChar c (writeChar c) := by
  unfold writeChar
  split
  · next same => subst same; exact writtenChar_letter (by decide) rfl
  split
  · next same => subst same; exact writtenChar_letter (by decide) rfl
  split
  · next same => subst same; exact writtenChar_letter (by decide) rfl
  split
  · next same => subst same; exact writtenChar_letter (by decide) rfl
  split
  · next same => subst same; exact writtenChar_letter (by decide) rfl
  split
  · next control => exact codeEscape_written control
  · next notBackslash notControl =>
    exact .plain (isPlain_of_isControl (by simpa using notControl) notBreak) notQuote notBackslash

section Short

variable {c : Char} {chars text rest tail : List Char}

theorem readBasic_char (written : WrittenChar c chars) (later : readBasic rest = some (text, tail)) :
    readBasic (chars ++ rest) = some (c :: text, tail) := by
  cases written with
  | escaped letter code visible reads =>
    rw [List.cons_append, List.cons_append, readBasic, if_neg (by decide), if_pos rfl]
    split
    · next failed => simp [reads] at failed
    · next escaped after found =>
      cases (reads rest).symm.trans found
      rw [later]
      rfl
  | plain isPlain notQuote notBackslash =>
    rw [List.singleton_append, readBasic, if_neg notQuote, if_neg notBackslash, if_pos isPlain, later]
    rfl

theorem writeBasic_cons (c : Char) (tail : List Char) :
    ∃ chars, WrittenChar c chars ∧ writeBasic (c :: tail) = chars ++ writeBasic tail := by
  refine ⟨_, ?_, rfl⟩
  split
  · next same => subst same; exact writtenChar_quote
  split
  · next same => subst same; exact writtenChar_letter (by decide) rfl
  · next notQuote notBreak => exact writeChar_written notQuote notBreak

theorem readBasic_writeBasic (text rest : List Char) :
    readBasic (writeBasic text ++ '"' :: rest) = some (text, rest) := by
  induction text with
  | nil => rw [writeBasic, List.nil_append, readBasic, if_pos rfl]
  | cons c tail ih =>
    obtain ⟨chars, written, same⟩ := writeBasic_cons c tail
    rw [same, List.append_assoc]
    exact readBasic_char written ih

theorem readLiteral_plain (plain : ∀ c ∈ text, isPlain c = true ∧ c ≠ '\'') :
    readLiteral (text ++ '\'' :: rest) = some (text, rest) := by
  induction text with
  | nil => rfl
  | cons c tail ih =>
    obtain ⟨⟨isPlain, notQuote⟩, others⟩ := List.forall_mem_cons.mp plain
    rw [List.cons_append, readLiteral, if_neg notQuote, if_pos isPlain, ih others]
    rfl

end Short

section Quotes

variable {quote : Char} {rest : List Char}

theorem afterTwo?_same : afterTwo? quote (quote :: quote :: rest) = some rest := by
  simp [afterTwo?]

theorem afterTwo?_first {first : Char} (apart : first ≠ quote) : afterTwo? quote (first :: rest) = none := by
  cases rest <;> simp [afterTwo?, apart]

theorem afterTwo?_second {first second : Char} (apart : second ≠ quote) :
    afterTwo? quote (first :: second :: rest) = none := by
  simp [afterTwo?, apart]

-- Up to two quotes right before the closing ones are told from them by what follows.
theorem closingQuotes_run (apart : rest.head? ≠ some quote) {count : Nat} (few : count ≤ 2) :
    closingQuotes quote (List.replicate count quote ++ rest) = (List.replicate count quote, rest) := by
  match count, few with
  | 0, _ =>
    match rest, apart with
    | [], _ => rfl
    | [first], apart => simp_all [closingQuotes]
    | first :: second :: more, apart => simp_all [closingQuotes]
  | 1, _ => cases rest <;> simp_all [closingQuotes]
  | 2, _ => simp [closingQuotes]

end Quotes

section LongBasic

variable {c : Char} {chars text rest tail : List Char} {quotes : Nat}

theorem readLongBasic_char (written : WrittenChar c chars) (later : readLongBasic rest = some (text, tail)) :
    readLongBasic (chars ++ rest) = some (c :: text, tail) := by
  cases written with
  | escaped letter code visible reads =>
    simp only [startsBlank, Bool.or_eq_false_iff, beq_eq_false_iff_ne] at visible
    have noBreak : afterHiddenBreak? (letter :: (code ++ rest)) = none := by
      rw [afterHiddenBreak?, List.dropWhile_cons_of_neg (by simp [visible])]
      split
      · next same => exact absurd (List.cons.inj same).1 visible.1.2
      · next same => exact absurd (List.cons.inj same).1 visible.2
      · rfl
    rw [List.cons_append, List.cons_append, readLongBasic, if_neg (by decide), if_pos rfl]
    split
    · next after hidden => simp [noBreak] at hidden
    split
    · next failed => simp [reads] at failed
    · next escaped after found =>
      cases (reads rest).symm.trans found
      rw [later]
      rfl
  | plain isPlain notQuote notBackslash =>
    rw [List.singleton_append, readLongBasic, if_neg notQuote, if_neg notBackslash, isPlain, later]
    rfl

theorem readLongBasic_close (apart : rest.head? ≠ some '"') {count : Nat} (few : count ≤ 2) :
    readLongBasic ('"' :: '"' :: '"' :: (List.replicate count '"' ++ rest)) =
      some (List.replicate count '"', rest) := by
  rw [readLongBasic, if_pos rfl, afterTwo?_same, ← closingQuotes_run apart few]

theorem writeLongBasic_first (quotes : Nat) (c : Char) (tail : List Char) (apart : c = '"' → quotes = 2) :
    ∃ first more, writeLongBasic quotes (c :: tail) = first :: more ∧ first ≠ '"' := by
  rw [writeLongBasic]
  split
  · next same => exact ⟨_, _, by rw [if_pos (apart same)], by decide⟩
  split
  · exact ⟨_, _, rfl, by decide⟩
  · next notQuote notBreak =>
    obtain ⟨first, more, same, other, -⟩ := (writeChar_written notQuote notBreak).first
    exact ⟨first, more ++ writeLongBasic 0 tail, by rw [same]; rfl, other⟩

-- A quote that is written as it is. The closing quotes are met behind it only if the text ends with it or
-- with one more.
theorem readLongBasic_quote (apart : rest.head? ≠ some '"') (few : quotes < 2)
    (later : readLongBasic (writeLongBasic (quotes + 1) tail ++ '"' :: '"' :: '"' :: rest) = some (tail, rest)) :
    readLongBasic ('"' :: (writeLongBasic (quotes + 1) tail ++ '"' :: '"' :: '"' :: rest)) =
      some ('"' :: tail, rest) := by
  have goesOn (more : afterTwo? '"' (writeLongBasic (quotes + 1) tail ++ '"' :: '"' :: '"' :: rest) = none) :
      readLongBasic ('"' :: (writeLongBasic (quotes + 1) tail ++ '"' :: '"' :: '"' :: rest)) =
        some ('"' :: tail, rest) := by
    rw [readLongBasic, if_pos rfl, more]
    dsimp only
    rw [later]
    rfl
  cases tail with
  | nil => exact readLongBasic_close apart (Nat.le_succ 1)
  | cons next more =>
    by_cases run : next = '"' ∧ quotes = 0
    · obtain ⟨rfl, rfl⟩ := run
      cases more with
      | nil => exact readLongBasic_close apart (Nat.le_refl 2)
      | cons third others =>
        obtain ⟨first, behind, written, other⟩ := writeLongBasic_first 2 third others fun _ => rfl
        refine goesOn ?_
        rw [writeLongBasic, if_pos rfl, if_neg (by decide), written]
        exact afterTwo?_second other
    · have escapes : next = '"' → quotes + 1 = 2 := by
        intro same
        have := not_and.mp run same
        omega
      obtain ⟨first, behind, written, other⟩ := writeLongBasic_first _ next more escapes
      refine goesOn ?_
      rw [written]
      exact afterTwo?_first other

theorem readLongBasic_writeLongBasic (apart : rest.head? ≠ some '"') (text : List Char) (few : quotes ≤ 2) :
    readLongBasic (writeLongBasic quotes text ++ '"' :: '"' :: '"' :: rest) = some (text, rest) := by
  induction text generalizing quotes with
  | nil => exact readLongBasic_close apart (Nat.zero_le 2)
  | cons c tail ih =>
    rw [writeLongBasic]
    split
    · next same =>
      subst same
      split
      · change readLongBasic (['\\', '"'] ++ (writeLongBasic 0 tail ++ _)) = _
        exact readLongBasic_char writtenChar_quote (ih (Nat.zero_le 2))
      · exact readLongBasic_quote apart (by omega) (ih (by omega))
    split
    · next same =>
      rw [List.cons_append, same, readLongBasic, if_neg (by decide), if_neg (by decide), if_pos (by simp),
        ih (Nat.zero_le 2)]
      rfl
    · next notQuote notBreak =>
      rw [List.append_assoc]
      exact readLongBasic_char (writeChar_written notQuote notBreak) (ih (Nat.zero_le 2))

end LongBasic

section LongLiteral

variable {text rest : List Char}

theorem hasRun_mono {quote : Char} {count less more : Nat} (le : less ≤ more) (text : List Char)
    (noRun : hasRun quote count more text = false) : hasRun quote count less text = false := by
  induction text generalizing less more with
  | nil =>
    simp only [hasRun, decide_eq_false_iff_not] at noRun ⊢
    omega
  | cons c tail ih =>
    rw [hasRun] at noRun ⊢
    split at noRun
    · cases noRun
    rw [if_neg (by omega)]
    split at noRun
    · next same => rw [if_pos same]; exact ih (Nat.succ_le_succ le) noRun
    · next other => rw [if_neg other]; exact noRun

theorem readLongLiteral_close (apart : rest.head? ≠ some '\'') {count : Nat} (few : count ≤ 2) :
    readLongLiteral ('\'' :: '\'' :: '\'' :: (List.replicate count '\'' ++ rest)) =
      some (List.replicate count '\'', rest) := by
  rw [readLongLiteral, if_pos rfl, afterTwo?_same, ← closingQuotes_run apart few]

theorem readLongLiteral_quote {tail : List Char} (apart : rest.head? ≠ some '\'')
    (noRun : hasRun '\'' 3 1 tail = false)
    (later : readLongLiteral (tail ++ '\'' :: '\'' :: '\'' :: rest) = some (tail, rest)) :
    readLongLiteral ('\'' :: (tail ++ '\'' :: '\'' :: '\'' :: rest)) = some ('\'' :: tail, rest) := by
  have goesOn (more : afterTwo? '\'' (tail ++ '\'' :: '\'' :: '\'' :: rest) = none) :
      readLongLiteral ('\'' :: (tail ++ '\'' :: '\'' :: '\'' :: rest)) = some ('\'' :: tail, rest) := by
    rw [readLongLiteral, if_pos rfl, more]
    dsimp only
    rw [later]
    rfl
  cases tail with
  | nil => exact readLongLiteral_close apart (Nat.le_succ 1)
  | cons next more =>
    by_cases second : next = '\''
    · subst second
      cases more with
      | nil => exact readLongLiteral_close apart (Nat.le_refl 2)
      | cons third others =>
        have other : third ≠ '\'' := by
          rintro rfl
          cases others <;> simp [hasRun] at noRun
        exact goesOn (afterTwo?_second other)
    · exact goesOn (afterTwo?_first second)

theorem readLongLiteral_plain (apart : rest.head? ≠ some '\'')
    (plain : ∀ c ∈ text, isPlain c = true ∨ c = '\n') (noRun : hasRun '\'' 3 0 text = false) :
    readLongLiteral (text ++ '\'' :: '\'' :: '\'' :: rest) = some (text, rest) := by
  induction text with
  | nil => exact readLongLiteral_close apart (Nat.zero_le 2)
  | cons c tail ih =>
    obtain ⟨first, others⟩ := List.forall_mem_cons.mp plain
    rw [hasRun, if_neg (by decide)] at noRun
    split at noRun
    · next same =>
      subst same
      exact readLongLiteral_quote apart noRun (ih others (hasRun_mono (Nat.zero_le 1) tail noRun))
    · next notQuote =>
      have stands : (isPlain c || c == '\n' ||
          c == '\r' && (tail ++ '\'' :: '\'' :: '\'' :: rest).head? == some '\n') = true := by
        rcases first with plain | same
        · simp [plain]
        · simp [same]
      rw [List.cons_append, readLongLiteral, if_neg notQuote, if_pos stands, ih others noRun]
      rfl

end LongLiteral

def TextForm.isLong : TextForm → Bool
  | .basic => false
  | .literal => false
  | .longBasic => true
  | .longLiteral => true

def TextForm.Suits (text : List Char) : TextForm → Prop
  | .basic => True
  | .literal => ∀ c ∈ text, isPlain c = true ∧ c ≠ '\''
  | .longBasic => True
  | .longLiteral => (∀ c ∈ text, isPlain c = true ∨ c = '\n') ∧ hasRun '\'' 3 0 text = false

theorem TextForm.choose_suits (text : List Char) : (TextForm.choose text).Suits text := by
  have plain (noControl : text.any isControl = false) : ∀ c ∈ text, isPlain c = true ∨ c = '\n' := by
    intro c listed
    by_cases same : c = '\n'
    · exact .inr same
    · simp only [List.any_eq_false, Bool.not_eq_true] at noControl
      exact .inl (isPlain_of_isControl (noControl c listed) same)
  simp only [choose]
  split
  · trivial
  split
  · next suits =>
    simp only [Bool.and_eq_true, Bool.not_eq_true', List.contains_eq_mem, decide_eq_false_iff_not] at suits
    intro c listed
    refine ⟨(plain suits.1.1 c listed).resolve_right ?_, ?_⟩
    · rintro rfl
      exact suits.2 listed
    · rintro rfl
      exact suits.1.2 listed
  split
  · trivial
  split
  · next suits =>
    simp only [Bool.and_eq_true, Bool.not_eq_true'] at suits
    exact ⟨plain suits.1, suits.2⟩
  split <;> trivial

section Quoted

variable {text rest : List Char}

theorem afterTwo?_close {quote : Char} (apart : rest.head? ≠ some quote) :
    afterTwo? quote (quote :: rest) = none := by
  cases rest with
  | nil => rfl
  | cons first more => exact afterTwo?_second fun same => apart (congrArg some same)

theorem readDoubleQuoted_basic (text : List Char) (apart : rest.head? ≠ some '"') :
    readDoubleQuoted (writeBasic text ++ '"' :: rest) = some ⟨text, false, rest⟩ := by
  have short : afterTwo? '"' (writeBasic text ++ '"' :: rest) = none := by
    cases text with
    | nil => exact afterTwo?_close apart
    | cons c tail =>
      obtain ⟨chars, written, same⟩ := writeBasic_cons c tail
      obtain ⟨first, more, rfl, other, -⟩ := written.first
      rw [same]
      exact afterTwo?_first other
  rw [readDoubleQuoted, readQuoted, short]
  dsimp only
  rw [readBasic_writeBasic]
  rfl

theorem readSingleQuoted_literal (plain : ∀ c ∈ text, isPlain c = true ∧ c ≠ '\'')
    (apart : rest.head? ≠ some '\'') :
    readSingleQuoted (text ++ '\'' :: rest) = some ⟨text, false, rest⟩ := by
  have short : afterTwo? '\'' (text ++ '\'' :: rest) = none := by
    cases text with
    | nil => exact afterTwo?_close apart
    | cons c tail => exact afterTwo?_first (plain c List.mem_cons_self).2
  rw [readSingleQuoted, readQuoted, short]
  dsimp only
  rw [readLiteral_plain plain]
  rfl

theorem dropFirstBreak_plain {first : Char} (plain : isPlain first = true) (more : List Char) :
    dropFirstBreak (first :: more) = first :: more := by
  unfold dropFirstBreak
  split
  · next same => cases (List.cons.inj same).1; cases plain
  · next same => cases (List.cons.inj same).1; cases plain
  · rfl

theorem dropFirstBreak_longBasic (text rest : List Char) :
    dropFirstBreak (firstBreak text ++ (writeLongBasic 0 text ++ '"' :: rest)) =
      writeLongBasic 0 text ++ '"' :: rest := by
  unfold firstBreak
  split
  · rfl
  · next noBreak =>
    cases text with
    | nil => rfl
    | cons c tail =>
      rw [writeLongBasic]
      split
      · exact dropFirstBreak_plain (by decide) _
      split
      · next same => simp [same] at noBreak
      · next notQuote notBreak =>
        obtain ⟨first, more, same, -, plain⟩ := (writeChar_written notQuote notBreak).first
        rw [same]
        exact dropFirstBreak_plain plain _

theorem dropFirstBreak_longLiteral (plain : ∀ c ∈ text, isPlain c = true ∨ c = '\n') (rest : List Char) :
    dropFirstBreak (firstBreak text ++ (text ++ '\'' :: rest)) = text ++ '\'' :: rest := by
  unfold firstBreak
  split
  · rfl
  · next noBreak =>
    cases text with
    | nil => rfl
    | cons c tail =>
      have first := (plain c List.mem_cons_self).resolve_right fun same => noBreak (by simp [same])
      exact dropFirstBreak_plain first _

theorem readDoubleQuoted_longBasic (text : List Char) (apart : rest.head? ≠ some '"') :
    readDoubleQuoted ('"' :: '"' :: (firstBreak text ++ (writeLongBasic 0 text ++ '"' :: '"' :: '"' :: rest))) =
      some ⟨text, true, rest⟩ := by
  rw [readDoubleQuoted, readQuoted, afterTwo?_same]
  dsimp only
  rw [dropFirstBreak_longBasic, readLongBasic_writeLongBasic apart text (Nat.zero_le 2)]
  rfl

theorem readSingleQuoted_longLiteral (plain : ∀ c ∈ text, isPlain c = true ∨ c = '\n')
    (noRun : hasRun '\'' 3 0 text = false) (apart : rest.head? ≠ some '\'') :
    readSingleQuoted ('\'' :: '\'' :: (firstBreak text ++ (text ++ '\'' :: '\'' :: '\'' :: rest))) =
      some ⟨text, true, rest⟩ := by
  rw [readSingleQuoted, readQuoted, afterTwo?_same]
  dsimp only
  rw [dropFirstBreak_longLiteral plain, readLongLiteral_plain apart plain noRun]
  rfl

end Quoted

end MediaSearch.Toml
