import MediaSearch.Proofs.Toml.WrittenTexts
import MediaSearch.Toml.Document

set_option autoImplicit false

namespace MediaSearch.Toml

open Key (isBareChar)

section Words

variable {c stop : Char} {word more rest : List Char}

theorem ne_of_isBareChar {other : Char} (bare : isBareChar c = true) (apart : isBareChar other = false) :
    c ≠ other := by
  rintro rfl
  exact Bool.noConfusion (bare.symm.trans apart)

theorem endsWord_of_isBareChar (bare : isBareChar c = true) : endsWord c = false := by
  simp only [endsWord, Bool.or_eq_false_iff, beq_eq_false_iff_ne]
  and_intros <;> exact ne_of_isBareChar bare (by decide)

theorem isQuote_of_isBareChar (bare : isBareChar c = true) : isQuote c = false := by
  simp only [isQuote, Bool.or_eq_false_iff, beq_eq_false_iff_ne]
  and_intros <;> exact ne_of_isBareChar bare (by decide)

theorem takeWord_bare (bare : ∀ c ∈ word, isBareChar c = true) (ends : endsWord stop = true) (last : Char) :
    takeWord last (word ++ stop :: rest) = (word, stop :: rest) := by
  induction word generalizing last with
  | nil => simp [takeWord, ends]
  | cons c tail ih =>
    obtain ⟨first, others⟩ := List.forall_mem_cons.mp bare
    have notTab : c ≠ '\t' := ne_of_isBareChar first (by decide)
    simp [takeWord, endsWord_of_isBareChar first, isQuote_of_isBareChar first, ih others, notTab]

-- What follows a word and keeps it from going on. Behind a date, a blank and a digit would not.
def stopsWord (stop : Char) (more : List Char) : Bool :=
  endsWord stop && (stop != ' ' || more.head?.any fun next => !isDecimalDigit next)

theorem splitWord_bare (bare : ∀ c ∈ word, isBareChar c = true) (stops : stopsWord stop more = true) (c : Char)
    (rest : List Char) :
    splitWord c (word ++ stop :: (more ++ rest)) = (c :: word, stop :: (more ++ rest)) := by
  obtain ⟨ends, apart⟩ := Bool.and_eq_true_iff.mp stops
  have alone : isDateBeforeTime (c :: word) (stop :: (more ++ rest)) = false := by
    unfold isDateBeforeTime
    split
    · next same =>
      obtain ⟨rfl, behind⟩ := List.cons.inj same
      cases more with
      | nil => simp at apart
      | cons next others => simpa [← (List.cons.inj behind).1] using apart
    · rfl
  simp [splitWord, takeWord_bare bare ends, alone]

theorem addWord?_bare (bare : ∀ c ∈ word, isBareChar c = true) (key : Key) (part : List Char) :
    key.addWord? part word = key.endPart? (word.reverse ++ part) := by
  induction word generalizing part with
  | nil => rfl
  | cons c tail ih =>
    obtain ⟨first, others⟩ := List.forall_mem_cons.mp bare
    have notDot : c ≠ '.' := ne_of_isBareChar first (by decide)
    have notTab : c ≠ '\t' := ne_of_isBareChar first (by decide)
    rw [Key.addWord?, if_neg notDot, if_neg notTab, if_pos first, ih others]
    simp

end Words

section Texts

variable {text : List Char} {found : ReadText}

theorem tokens?_double (read : readDoubleQuoted text = some found) :
    tokens? ('"' :: text) =
      (tokens? found.rest).map (.text (String.ofList found.value) found.isLong :: ·) := by
  rw [tokens?, if_neg (by decide)]
  repeat rw [if_neg (by decide)]
  rw [if_pos rfl]
  split
  · next failed => simp [read] at failed
  · next same => cases read.symm.trans same; rfl

theorem tokens?_single (read : readSingleQuoted text = some found) :
    tokens? ('\'' :: text) =
      (tokens? found.rest).map (.text (String.ofList found.value) found.isLong :: ·) := by
  rw [tokens?, if_neg (by decide)]
  repeat rw [if_neg (by decide)]
  rw [if_pos rfl]
  split
  · next failed => simp [read] at failed
  · next same => cases read.symm.trans same; rfl

theorem tokens?_writeTextAs {form : TextForm} {stop : Char} (suits : form.Suits text)
    (notQuote : isQuote stop = false) (rest : List Char) :
    tokens? (writeTextAs text form ++ stop :: rest) =
      (tokens? (stop :: rest)).map (.text (String.ofList text) form.isLong :: ·) := by
  simp only [isQuote, Bool.or_eq_false_iff, beq_eq_false_iff_ne] at notQuote
  have double : (stop :: rest).head? ≠ some '"' := by simpa using notQuote.1
  have single : (stop :: rest).head? ≠ some '\'' := by simpa using notQuote.2
  cases form with
  | basic =>
    have read := tokens?_double (readDoubleQuoted_basic text double)
    simpa [writeTextAs, TextForm.isLong] using read
  | literal =>
    have read := tokens?_single (readSingleQuoted_literal suits single)
    simpa [writeTextAs, TextForm.isLong] using read
  | longBasic =>
    have read := tokens?_double (readDoubleQuoted_longBasic text double)
    simpa [writeTextAs, TextForm.isLong] using read
  | longLiteral =>
    have read := tokens?_single (readSingleQuoted_longLiteral suits.1 suits.2 single)
    simpa [writeTextAs, TextForm.isLong] using read

end Texts

def Reads (text : List Char) (tokens : List Token) : Prop :=
  ∀ rest, tokens? (text ++ rest) = (tokens? rest).map (tokens ++ ·)

namespace Reads

variable {c stop : Char} {first second text word more : List Char} {left right tokens : List Token}

theorem append (readsFirst : Reads first left) (readsSecond : Reads second right) :
    Reads (first ++ second) (left ++ right) := by
  intro rest
  rw [List.append_assoc, readsFirst, readsSecond, Option.map_map]
  congr 1
  funext tokens
  exact (List.append_assoc left right tokens).symm

theorem tokens?_eq (reads : Reads text tokens) : tokens? text = some tokens := by
  have ended : tokens? [] = some [] := by rw [tokens?]
  have whole := reads []
  rwa [List.append_nil, ended, Option.map_some, List.append_nil] at whole

theorem newline : Reads ['\n'] [.newline] := by
  intro rest
  rw [List.singleton_append, tokens?, if_neg (by decide), if_pos rfl]
  rfl

theorem space : Reads [' '] [] := by
  intro rest
  rw [List.singleton_append, tokens?, if_pos (by decide)]
  simp

theorem equals : Reads ['='] [.equals] := by
  intro rest
  rw [List.singleton_append, tokens?, if_neg (by decide), if_neg (by decide), if_neg (by decide),
    if_neg (by decide), if_pos rfl]
  rfl

theorem bracketOpen (single : c ≠ '[') (later : Reads (c :: more) tokens) :
    Reads ('[' :: c :: more) (.bracketOpen false :: tokens) := by
  intro rest
  have doubled : ((c :: (more ++ rest)).head? == some '[') = false := by simpa using single
  rw [List.cons_append, List.cons_append, tokens?, if_neg (by decide), if_neg (by decide),
    if_neg (by decide), if_neg (by decide), if_neg (by decide), if_neg (by decide), if_pos rfl, doubled]
  rw [← List.cons_append, later, Option.map_map]
  rfl

theorem bracketClose (single : c ≠ ']') (later : Reads (c :: more) tokens) :
    Reads (']' :: c :: more) (.bracketClose false :: tokens) := by
  intro rest
  have doubled : ((c :: (more ++ rest)).head? == some ']') = false := by simpa using single
  rw [List.cons_append, List.cons_append, tokens?, if_neg (by decide), if_neg (by decide),
    if_neg (by decide), if_neg (by decide), if_neg (by decide), if_neg (by decide), if_neg (by decide),
    if_pos rfl, doubled]
  rw [← List.cons_append, later, Option.map_map]
  rfl

theorem ofWord (bare : ∀ c ∈ word, isBareChar c = true) (nonempty : word ≠ []) (stops : stopsWord stop more = true)
    (later : Reads (stop :: more) tokens) : Reads (word ++ stop :: more) (.word word :: tokens) := by
  intro rest
  match word, nonempty with
  | c :: tail, _ =>
    obtain ⟨first, others⟩ := List.forall_mem_cons.mp bare
    have apart {other : Char} : isBareChar other = false → ¬c = other := ne_of_isBareChar first
    have blanks : ¬c = ' ' ∧ ¬c = '\t' := ⟨apart (by decide), apart (by decide)⟩
    have notSpace : ¬isSpace c = true := by simpa [isSpace] using blanks
    rw [List.append_assoc, List.cons_append, List.cons_append, tokens?, if_neg notSpace]
    repeat rw [if_neg (apart (by decide))]
    rw [splitWord_bare others stops, ← List.cons_append, later, Option.map_map]
    rfl

theorem ofText (text : String) (notQuote : isQuote stop = false) (later : Reads (stop :: more) tokens) :
    ∃ isLong, Reads ((writeText text).toList ++ stop :: more) (.text text isLong :: tokens) := by
  refine ⟨(TextForm.choose text.toList).isLong, fun rest => ?_⟩
  have read := tokens?_writeTextAs (TextForm.choose_suits text.toList) notQuote (more ++ rest)
  rw [writeText, String.toList_ofList, List.append_assoc, List.cons_append, read, ← List.cons_append, later,
    Option.map_map, String.ofList_toList]
  rfl

theorem comment (plain : ∀ c ∈ text, isPlain c = true) : Reads ('#' :: text ++ ['\n']) [.newline] := by
  intro rest
  have dropped : (text ++ '\n' :: rest).dropWhile isPlain = '\n' :: rest := by
    rw [List.dropWhile_append_of_pos plain]
    rfl
  rw [List.append_assoc, List.cons_append, tokens?, if_neg (by decide), if_neg (by decide), if_neg (by decide),
    if_pos rfl, List.singleton_append, dropped]
  exact newline rest

end Reads

-- Lines that lead from one document to another, when they are read at the start of a line.
def Extends (before : Document) (text : List Char) (after : Document) : Prop :=
  ∃ tokens, Reads text tokens ∧
    ∀ rest, run before .lineStart (tokens ++ rest) = run after .lineStart rest

theorem run_step {document read : Document} {state next : State} {token : Token}
    (stepped : step document state token = some (next, read)) (tokens : List Token) :
    run document state (token :: tokens) = run read next tokens := by
  rw [run, stepped]

def Key.IsName (name : String) : Prop := name.toList ≠ [] ∧ ∀ c ∈ name.toList, isBareChar c = true

theorem Key.isName_of_all {name : String}
    (checked : (!name.toList.isEmpty && name.toList.all isBareChar) = true) : Key.IsName name := by
  simpa [Key.IsName] using checked

theorem Key.IsName.add? {name : String} (isName : Key.IsName name) :
    Key.start.add? (.word name.toList) = some ⟨[name], false⟩ := by
  rw [Key.add?, addWord?_bare isName.2, Key.endPart?, if_neg (by simpa using isName.1)]
  simp [Key.addPart?, Key.start, maxNesting]

namespace Extends

variable {before between after : Document} {name : String}

theorem nil : Extends before [] before :=
  ⟨[], fun rest => by simp, fun rest => rfl⟩

theorem append {first second : List Char} (extends₁ : Extends before first between)
    (extends₂ : Extends between second after) : Extends before (first ++ second) after := by
  obtain ⟨left, readsFirst, ranFirst⟩ := extends₁
  obtain ⟨right, readsSecond, ranSecond⟩ := extends₂
  refine ⟨left ++ right, readsFirst.append readsSecond, fun rest => ?_⟩
  rw [List.append_assoc, ranFirst, ranSecond]

theorem newline : Extends before ['\n'] before := ⟨[.newline], .newline, fun _ => rfl⟩

theorem comment {text : List Char} (plain : ∀ c ∈ text, isPlain c = true) :
    Extends before ('#' :: text ++ ['\n']) before :=
  ⟨[.newline], .comment plain, fun _ => rfl⟩

theorem header (name : String) (isName : Key.IsName name)
    (opened : before.openAt? Table.openTable [name] = some after) :
    Extends before ('[' :: name.toList ++ [']', '\n']) after := by
  have close : Reads [']', '\n'] [.bracketClose false, .newline] := .bracketClose (by decide) .newline
  have inside := Reads.ofWord isName.2 isName.1 (by decide) close
  refine ⟨.bracketOpen false :: .word name.toList :: [.bracketClose false, .newline], ?_, fun rest => ?_⟩
  · obtain ⟨c, tail, same⟩ := List.exists_cons_of_ne_nil isName.1
    have bare := isName.2 c (same ▸ List.mem_cons_self)
    rw [same] at inside ⊢
    exact inside.bracketOpen (ne_of_isBareChar bare (by decide))
  · have named : step before (.header false .start) (.word name.toList) =
        some (.header false ⟨[name], false⟩, before) := by
      rw [step, isName.add?]
      · rfl
      · simp
    have closed : step before (.header false ⟨[name], false⟩) (.bracketClose false) = some (.lineEnd, after) := by
      change (before.openAt? Table.openTable [name]).map (State.lineEnd, ·) = _
      rw [opened]
      rfl
    refine (run_step rfl _).trans ?_
    refine (run_step named _).trans ?_
    exact (run_step closed _).trans (run_step rfl _)

theorem setting {value : List Char} {token : Token} {item : Item} (isName : Key.IsName name)
    (reads : Reads (value ++ ['\n']) [token, .newline])
    (starts : ∀ document, startValue [name] [] document token = complete [name] item document [])
    (notBreak : token ≠ .newline)
    (defined : before.define? [name] item = some after) :
    Extends before (name.toList ++ [' ', '=', ' '] ++ value ++ ['\n']) after := by
  have sign : Reads ([' '] ++ (['='] ++ ([' '] ++ (value ++ ['\n'])))) [.equals, token, .newline] :=
    Reads.space.append (Reads.equals.append (Reads.space.append reads))
  have whole := Reads.ofWord isName.2 isName.1 rfl sign
  refine ⟨[.word name.toList, .equals, token, .newline], ?_, fun rest => ?_⟩
  · simpa using whole
  · have named : step before .lineStart (.word name.toList) = some (.key ⟨[name], false⟩, before) := by
      rw [step, isName.add?]
      · rfl
      all_goals simp
    have valued : step before (.value [name] []) token = some (.lineEnd, after) := by
      rw [step, starts, complete, defined]
      · rfl
      · simpa using notBreak
    refine (run_step named _).trans ?_
    refine (run_step rfl _).trans ?_
    exact (run_step valued _).trans (run_step rfl _)

theorem textSetting (isName : Key.IsName name) {value : String}
    (defined : before.define? [name] (.text value) = some after) :
    Extends before (name.toList ++ [' ', '=', ' '] ++ (writeText value).toList ++ ['\n']) after := by
  obtain ⟨isLong, reads⟩ := Reads.ofText value (by decide) Reads.newline
  exact setting isName reads (fun _ => rfl) (by simp) defined

theorem wordSetting (isName : Key.IsName name) (word : String) (bare : Key.IsName word) {item : Item}
    (stands : Item.ofWord? word.toList = some item) (defined : before.define? [name] item = some after) :
    Extends before (name.toList ++ [' ', '=', ' '] ++ word.toList ++ ['\n']) after := by
  have reads := Reads.ofWord bare.2 bare.1 (by decide) Reads.newline
  refine setting isName reads (fun document => ?_) (by simp) defined
  rw [startValue, stands]

end Extends

theorem dropByteOrderMark_of_head {text : List Char} (noMark : text.head? ≠ some '\ufeff') :
    dropByteOrderMark text = text := by
  cases text with
  | nil => rfl
  | cons c rest => exact if_neg fun mark => noMark (congrArg some mark)

theorem parse?_of_extends {text : String} {document : Document} (lines : Extends .empty text.toList document)
    (noMark : text.toList.head? ≠ some '\ufeff') : parse? text = some document.root := by
  obtain ⟨tokens, reads, ran⟩ := lines
  have ended := ran []
  rw [List.append_nil, run] at ended
  simp only [parse?, dropByteOrderMark_of_head noMark, reads.tokens?_eq, ended]

end MediaSearch.Toml
