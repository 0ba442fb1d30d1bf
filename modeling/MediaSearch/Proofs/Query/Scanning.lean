import MediaSearch.Proofs.Query.Canonical
import MediaSearch.Query.Lexer

set_option autoImplicit false

namespace MediaSearch.Query

open Text (isBlank isWordChar byteLength sameIgnoringCase)

theorem isBlank_eq_false_of_isWordChar {c : Char} (word : isWordChar c = true) :
    isBlank c = false := by
  delta isWordChar Char.isAlphanum Char.isAlpha Char.isUpper Char.isLower Char.isDigit at word
  simp only [Bool.or_eq_true, Bool.and_eq_true, decide_eq_true_eq, beq_iff_eq,
    UInt32.le_iff_toNat_le, ge_iff_le] at word
  change (((65 ≤ c.toNat ∧ c.toNat ≤ 90) ∨ (97 ≤ c.toNat ∧ c.toNat ≤ 122)) ∨
    (48 ≤ c.toNat ∧ c.toNat ≤ 57)) ∨ c = '_' at word
  rcases word with code | rfl
  · simp only [isBlank, Bool.or_eq_false_iff, Bool.and_eq_false_iff, decide_eq_false_iff_not,
      beq_eq_false_iff_ne]
    omega
  · rfl

theorem endsWord_eq_false_of_isWordChar {c : Char} (word : isWordChar c = true) :
    endsWord c = false := by
  have opens : c ≠ '(' := by rintro rfl; simp [isWordChar] at word
  have closes : c ≠ ')' := by rintro rfl; simp [isWordChar] at word
  simp [endsWord, isBlank_eq_false_of_isWordChar word, opens, closes]

section Runs

variable {p : Char → Bool} {text rest : List Char}

theorem takeWhile_append_of_stop (all : ∀ c ∈ text, p c = true)
    (stop : ∀ c ∈ rest.head?, p c = false) : (text ++ rest).takeWhile p = text := by
  rw [List.takeWhile_append_of_pos all]
  cases rest with
  | nil => simp
  | cons c rest => simp [stop c rfl]

theorem dropWhile_append_of_stop (all : ∀ c ∈ text, p c = true)
    (stop : ∀ c ∈ rest.head?, p c = false) : (text ++ rest).dropWhile p = rest := by
  rw [List.dropWhile_append_of_pos all]
  cases rest with
  | nil => rfl
  | cons c rest => simp [stop c rfl]

end Runs

def EndsWord (rest : List Char) : Prop := ∀ c ∈ rest.head?, endsWord c = true

def EndsBound (rest : List Char) : Prop := ∀ c ∈ rest.head?, endsBound c = true

theorem quotedValue?_append {inner : List Char} (plain : '"' ∉ inner) (rest : List Char) :
    quotedValue? (inner ++ '"' :: rest) = some ('"' :: (inner ++ ['"']), rest) := by
  have all : ∀ c ∈ inner, (c != '"') = true := by
    intro c member
    rw [bne_iff_ne]
    rintro rfl
    exact plain member
  have stop : ∀ c ∈ ('"' :: rest).head?, (c != '"') = false := by simp
  simp [quotedValue?, takeWhile_append_of_stop all stop, dropWhile_append_of_stop all stop]

def ScansOperand (text : List Char) (tokens : List Token) : Prop :=
  ∀ offset rest, EndsWord rest → ∃ lexemes next, lexemes.map Lexeme.token = tokens ∧
    scanOperand offset (text ++ rest) = .ok ⟨lexemes, next, rest⟩

theorem scansOperand_quoted {text : List Char} (quoted : IsQuoted text) :
    ScansOperand text [.value (String.ofList text)] := by
  intro offset rest _
  obtain ⟨inner, rfl, plain⟩ := quoted
  refine ⟨[⟨.value _, offset⟩], offset + byteLength ('"' :: (inner ++ ['"'])), rfl, ?_⟩
  simp [scanOperand, quotedValue?_append plain]

theorem scansOperand_bare {op : Operator} {text : List Char} (bare : IsBareValue op text) :
    ScansOperand text [.value (String.ofList text)] := by
  intro offset rest ends
  obtain ⟨nonempty, plain, noRange, noQuote, -⟩ := bare
  have word : ∀ c ∈ text, (!endsWord c) = true := by
    intro c member
    have := plain c member
    simp [endsWord, this]
  rcases text with _ | ⟨c, text⟩
  · exact absurd rfl nonempty
  · have first := word c (by simp)
    have all : ∀ d ∈ text, (!endsWord d) = true := fun d member => word d (by simp [member])
    have stop : ∀ d ∈ rest.head?, (!endsWord d) = false := fun d member => by simp [ends d member]
    refine ⟨[⟨.value _, offset⟩], offset + byteLength (c :: text), rfl, ?_⟩
    simp_all [scanOperand, takeWhile_append_of_stop all stop, dropWhile_append_of_stop all stop]

section Ranges

variable {start offset : Nat} {c : Char} {text rest : List Char}

def Scan.cons (lexeme : Lexeme) (scan : Scan) : Scan :=
  { scan with lexemes := lexeme :: scan.lexemes }

theorem scanRange_blank (blank : isBlank c = true) :
    scanRange start offset (c :: rest) = scanRange start (offset + c.utf8Size) rest := by
  rw [scanRange.eq_def]
  exact if_pos blank

theorem scanRange_close :
    scanRange start offset (']' :: rest) = .ok ⟨[⟨.rangeClose, offset⟩], offset + 1, rest⟩ := by
  have blank : ¬ isBlank ']' = true := by decide
  rw [scanRange.eq_def]
  simp only [if_neg blank, if_true]

theorem scanRange_quoted {value : List Char} (read : quotedValue? text = some (value, rest)) :
    scanRange start offset ('"' :: text) =
      (scanRange start (offset + byteLength value) rest).map
        (Scan.cons ⟨.value (String.ofList value), offset⟩) := by
  have blank : ¬ isBlank '"' = true := by decide
  have noClose : '"' ≠ ']' := by decide
  rw [scanRange.eq_def]
  simp only [if_neg blank, if_neg noClose, if_true]
  split
  · next none => simp [none] at read
  · next found =>
    obtain ⟨rfl, rfl⟩ : _ = value ∧ _ = rest := by simpa [found] using read
    rfl

theorem scanRange_word (plain : endsBound c = false) (bare : c ≠ '"') :
    scanRange start offset (c :: text) =
      (scanRange start (offset + byteLength (c :: text.takeWhile (!endsBound ·)))
        (text.dropWhile (!endsBound ·))).map
          (Scan.cons ⟨boundToken (c :: text.takeWhile (!endsBound ·)), offset⟩) := by
  simp only [endsBound, Bool.or_eq_false_iff, beq_eq_false_iff_ne] at plain
  rw [scanRange.eq_def]
  simp only [plain.1, if_neg plain.2, if_neg bare, Bool.false_eq_true, if_false]
  rfl

-- The lexeme is put before whatever else the range turns out to hold.
def ScansBound (text : List Char) (token : Token) : Prop :=
  ∀ start offset rest, EndsBound rest → ∃ lexeme next, Lexeme.token lexeme = token ∧
    scanRange start offset (text ++ rest) = (scanRange start next rest).map (Scan.cons lexeme)

theorem scansBound_quoted (quoted : IsQuoted text) :
    ScansBound text (.value (String.ofList text)) := by
  intro start offset rest _
  obtain ⟨inner, rfl, plain⟩ := quoted
  have read := quotedValue?_append plain rest
  refine ⟨⟨.value _, offset⟩, offset + byteLength ('"' :: (inner ++ ['"'])), rfl, ?_⟩
  rw [← scanRange_quoted read]
  simp

theorem scansBound_word (nonempty : text ≠ []) (plain : ∀ c ∈ text, endsBound c = false)
    (noQuote : text.head? ≠ some '"') : ScansBound text (boundToken text) := by
  intro start offset rest ends
  rcases text with _ | ⟨c, text⟩
  · exact absurd rfl nonempty
  · have all : ∀ d ∈ text, (!endsBound d) = true := fun d member => by simp [plain d (by simp [member])]
    have stop : ∀ d ∈ rest.head?, (!endsBound d) = false := fun d member => by simp [ends d member]
    refine ⟨⟨boundToken (c :: text), offset⟩, offset + byteLength (c :: text), rfl, ?_⟩
    rw [List.cons_append, scanRange_word (plain c (by simp)) (by simpa using noQuote),
      takeWhile_append_of_stop all stop, dropWhile_append_of_stop all stop]

theorem scansBound_of_isBound (bound : IsBound text) :
    ScansBound text (.value (String.ofList text)) := by
  rcases bound with quoted | bare
  · exact scansBound_quoted quoted
  · have token : boundToken text = .value (String.ofList text) := by
      rw [boundToken, bare.notTo]
      rfl
    rw [← token]
    refine scansBound_word bare.nonempty (fun c member => ?_) bare.noQuote
    have := bare.plain c member
    simp [endsBound, this]

theorem scansOperand_range {low high : List Char} (lowBound : IsBound low)
    (highBound : IsBound high) :
    ScansOperand ('[' :: (low ++ " TO ".toList ++ high ++ [']']))
      [.rangeOpen, .value (String.ofList low), .to, .value (String.ofList high), .rangeClose] := by
  intro offset rest _
  have blank : isBlank ' ' = true := by decide
  have spaceEnds (text : List Char) : EndsBound (' ' :: text) := by simp [EndsBound, endsBound, blank]
  have closeEnds : EndsBound (']' :: rest) := by simp [EndsBound, endsBound]
  have scansTo : ScansBound "TO".toList .to :=
    scansBound_word (by decide) (forall_chars (by decide)) (by decide)
  -- The parts of the range in the order in which they are read.
  obtain ⟨first, next, isLow, readLow⟩ := scansBound_of_isBound lowBound offset (offset + 1)
    (' ' :: ("TO".toList ++ (' ' :: (high ++ ']' :: rest)))) (spaceEnds _)
  obtain ⟨second, next, isTo, readTo⟩ := scansTo offset (next + ' '.utf8Size)
    (' ' :: (high ++ ']' :: rest)) (spaceEnds _)
  obtain ⟨third, next, isHigh, readHigh⟩ := scansBound_of_isBound highBound offset
    (next + ' '.utf8Size) (']' :: rest) closeEnds
  refine ⟨[⟨.rangeOpen, offset⟩, first, second, third, ⟨.rangeClose, next⟩], next + 1,
    by simp [isLow, isTo, isHigh], ?_⟩
  have range : scanRange offset (offset + 1) (low ++ " TO ".toList ++ high ++ [']'] ++ rest) =
      .ok ⟨[first, second, third, ⟨.rangeClose, next⟩], next + 1, rest⟩ := by
    calc scanRange offset (offset + 1) (low ++ " TO ".toList ++ high ++ [']'] ++ rest)
        = scanRange offset (offset + 1)
            (low ++ ' ' :: ("TO".toList ++ (' ' :: (high ++ ']' :: rest)))) := by simp
      _ = .ok ⟨[first, second, third, ⟨.rangeClose, next⟩], next + 1, rest⟩ := by
          rw [readLow, scanRange_blank blank, readTo, scanRange_blank blank, readHigh,
            scanRange_close]
          rfl
  rw [List.cons_append, scanOperand, if_pos rfl, range]
  rfl

end Ranges

section Words

variable {offset : Nat} {rest : List Char}

theorem operator?_symbol {op : Operator} {text : List Char}
    (apart : op = .less ∨ op = .greater → text.head? ≠ some '=') :
    operator? (op.symbol.toList ++ text) = some (op, text) := by
  cases op with
  | less | greater =>
    rcases text with _ | ⟨c, text⟩
    · rfl
    · have : c ≠ '=' := by simpa using apart
      simp [Operator.symbol, operator?, this]
  | _ => rfl

theorem isWordChar_symbol (op : Operator) (text : List Char) :
    ∀ c ∈ (op.symbol.toList ++ text).head?, isWordChar c = false := by
  cases op <;> simp [Operator.symbol, isWordChar]

theorem operator?_of_endsWord (ends : EndsWord rest) : operator? rest = none := by
  rcases rest with _ | ⟨c, rest⟩
  · rfl
  · have := ends c rfl
    unfold operator?
    split <;> simp_all [endsWord, isBlank]

theorem isWordChar_of_endsWord (ends : EndsWord rest) : ∀ c ∈ rest.head?, isWordChar c = false := by
  intro c member
  cases word : isWordChar c with
  | false => rfl
  | true => simpa [endsWord_eq_false_of_isWordChar word] using ends c member

def Scans (text : List Char) (tokens : List Token) : Prop :=
  ∀ offset rest, EndsWord rest → ∃ lexemes next, lexemes.map Lexeme.token = tokens ∧
    scanFrom offset (text ++ rest) = (scanFrom next rest).map (lexemes ++ ·)

theorem scanFrom_nil : scanFrom offset [] = .ok [] := by
  rw [scanFrom.eq_def]

theorem scanFrom_blank {c : Char} (blank : isBlank c = true) :
    scanFrom offset (c :: rest) = scanFrom (offset + c.utf8Size) rest := by
  rw [scanFrom.eq_def]
  exact dif_pos blank

theorem scanFrom_open :
    scanFrom offset ('(' :: rest) = (scanFrom (offset + 1) rest).map (⟨.groupOpen, offset⟩ :: ·) := by
  have blank : ¬ isBlank '(' = true := by decide
  rw [scanFrom.eq_def]
  simp only [dif_neg blank, dite_true]

theorem scanFrom_close :
    scanFrom offset (')' :: rest) = (scanFrom (offset + 1) rest).map (⟨.groupClose, offset⟩ :: ·) := by
  have blank : ¬ isBlank ')' = true := by decide
  have noOpen : ')' ≠ '(' := by decide
  rw [scanFrom.eq_def]
  simp only [dif_neg blank, dif_neg noOpen, dite_true]

theorem scanFrom_word {c : Char} {scan : Scan} (word : endsWord c = false)
    (read : scanWord offset (c :: rest) = .ok scan) :
    scanFrom offset (c :: rest) = (scanFrom scan.offset scan.rest).map (scan.lexemes ++ ·) := by
  simp only [endsWord, Bool.or_eq_false_iff, beq_eq_false_iff_ne] at word
  obtain ⟨⟨blank, opens⟩, closes⟩ := word
  rw [scanFrom.eq_def]
  simp only [blank, Bool.false_eq_true, dite_false, dif_neg opens, dif_neg closes]
  split
  · next failed => simp [failed] at read
  · next found =>
    obtain rfl : _ = scan := by simpa [found] using read
    rfl

theorem scans_test {name text : List Char} {op : Operator} {tokens : List Token}
    (field : IsFieldName name) (apart : op = .less ∨ op = .greater → text.head? ≠ some '=')
    (nonempty : text ≠ []) (operand : ScansOperand text tokens) :
    Scans (name ++ op.symbol.toList ++ text)
      (.field (String.ofList name) :: .operator op :: tokens) := by
  intro offset rest ends
  obtain ⟨nonemptyName, word⟩ := field
  obtain ⟨lexemes, next, tokensRead, readOperand⟩ :=
    operand (offset + byteLength name + byteLength op.symbol.toList) rest ends
  have apartRest : op = .less ∨ op = .greater → (text ++ rest).head? ≠ some '=' := by
    intro ordered
    rcases text with _ | ⟨c, text⟩
    · exact absurd rfl nonempty
    · exact apart ordered
  have stop := isWordChar_symbol op (text ++ rest)
  have read : scanWord offset (name ++ (op.symbol.toList ++ (text ++ rest))) =
      .ok ⟨⟨.field (String.ofList name), offset⟩ :: ⟨.operator op, offset + byteLength name⟩ ::
        lexemes, next, rest⟩ := by
    simp only [scanWord, takeWhile_append_of_stop word stop, dropWhile_append_of_stop word stop,
      operator?_symbol apartRest, readOperand]
    simp [nonemptyName, Except.map]
  refine ⟨⟨.field (String.ofList name), offset⟩ :: ⟨.operator op, offset + byteLength name⟩ ::
    lexemes, next, by simp [tokensRead], ?_⟩
  rcases name with _ | ⟨c, name⟩
  · exact absurd rfl nonemptyName
  · simpa using scanFrom_word (endsWord_eq_false_of_isWordChar (word c (by simp))) read

theorem scans_keyword {word : List Char} {token : Token} (nonempty : word ≠ [])
    (plain : ∀ c ∈ word, isWordChar c = true) (keyword : keyword? word = some token) :
    Scans word [token] := by
  intro offset rest ends
  have whole : ∀ c ∈ word, (!endsWord c) = true :=
    fun c member => by simp [endsWord_eq_false_of_isWordChar (plain c member)]
  have stop : ∀ c ∈ rest.head?, (!endsWord c) = false := fun c member => by simp [ends c member]
  have read : scanWord offset (word ++ rest) =
      .ok ⟨[⟨token, offset⟩], offset + byteLength word, rest⟩ := by
    simp only [scanWord, dropWhile_append_of_stop plain (isWordChar_of_endsWord ends),
      operator?_of_endsWord ends, takeWhile_append_of_stop whole stop,
      dropWhile_append_of_stop whole stop, keyword]
  refine ⟨[⟨token, offset⟩], offset + byteLength word, rfl, ?_⟩
  rcases word with _ | ⟨c, word⟩
  · exact absurd rfl nonempty
  · exact scanFrom_word (endsWord_eq_false_of_isWordChar (plain c (by simp))) read

end Words

section Pieces

variable {text other : List Char} {tokens others : List Token}

theorem map_append_map_append {ε α : Type} (result : Except ε (List α)) (first second : List α) :
    (result.map (second ++ ·)).map (first ++ ·) = result.map ((first ++ second) ++ ·) := by
  cases result <;> simp [Except.map]

theorem Scans.spaced (scans : Scans text tokens) (scansOther : Scans other others) :
    Scans (text ++ ' ' :: other) (tokens ++ others) := by
  intro offset rest ends
  have blank : isBlank ' ' = true := by decide
  have apart : EndsWord (' ' :: (other ++ rest)) := by simp [EndsWord, endsWord, blank]
  obtain ⟨first, next, firstTokens, readFirst⟩ := scans offset (' ' :: (other ++ rest)) apart
  obtain ⟨second, final, secondTokens, readSecond⟩ := scansOther (next + ' '.utf8Size) rest ends
  refine ⟨first ++ second, final, by simp [firstTokens, secondTokens], ?_⟩
  rw [List.append_assoc, List.cons_append, readFirst, scanFrom_blank blank, readSecond,
    map_append_map_append]

theorem Scans.grouped (scans : Scans text tokens) :
    Scans ('(' :: (text ++ [')'])) (.groupOpen :: (tokens ++ [.groupClose])) := by
  intro offset rest _
  have apart : EndsWord (')' :: rest) := by simp [EndsWord, endsWord]
  obtain ⟨inside, next, insideTokens, read⟩ := scans (offset + 1) (')' :: rest) apart
  refine ⟨⟨.groupOpen, offset⟩ :: (inside ++ [⟨.groupClose, next⟩]), next + 1,
    by simp [insideTokens], ?_⟩
  rw [List.cons_append, scanFrom_open, List.append_assoc, List.singleton_append, read,
    scanFrom_close]
  cases scanFrom (next + 1) rest <;> simp [Except.map]

theorem Scans.intercalate {α : Type} {write : α → List Char} {tokensOf : α → List Token}
    {separator : List Char} {between : List Token}
    (joins : ∀ {text other tokens others}, Scans text tokens → Scans other others →
      Scans (text ++ separator ++ other) (tokens ++ between ++ others))
    {items : List α} (nonempty : items ≠ [])
    (each : ∀ item ∈ items, Scans (write item) (tokensOf item)) :
    Scans (separator.intercalate (items.map write)) (between.intercalate (items.map tokensOf)) := by
  induction items with
  | nil => exact absurd rfl nonempty
  | cons item items ih =>
    cases items with
    | nil => simpa using each item (by simp)
    | cons second items =>
      simp only [List.map_cons, List.intercalate_cons_cons]
      exact joins (each item (by simp)) (ih (by simp) fun later member => each later (by simp [member]))

theorem tokenize_of_scans {input : String} (scans : Scans input.toList tokens) :
    ∃ lexemes, tokenize input = .ok lexemes ∧ lexemes.map Lexeme.token = tokens := by
  obtain ⟨lexemes, next, spelled, read⟩ := scans 0 [] (by simp [EndsWord])
  refine ⟨lexemes, ?_, spelled⟩
  rw [List.append_nil, scanFrom_nil] at read
  have scanned : scanFrom 0 input.toList = .ok lexemes := by simpa [Except.map] using read
  rw [tokenize, scanned]
  rfl

end Pieces

end MediaSearch.Query
