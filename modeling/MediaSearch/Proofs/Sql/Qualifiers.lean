import MediaSearch.Proofs.Sql.Compilation

set_option autoImplicit false

namespace MediaSearch.Sql

open Text (isWordChar)

-- Digits before a dot are part of a number.
def opensNumber (word : List Char) : Bool := word.head?.any Char.isDigit

def nextWord (word : List Char) (c : Char) : List Char := if isWordChar c then word ++ [c] else []

-- The words before a dot in a text that goes on after `word`. A dot that no word stands before counts
-- for an empty one.
def qualifiersFrom (word : List Char) : List Char → List (List Char)
  | [] => []
  | c :: rest =>
      (if c = '.' ∧ opensNumber word = false then [word] else []) ++
        qualifiersFrom (nextWord word c) rest

def qualifiers (sql : String) : List String := (qualifiersFrom [] sql.toList).map String.ofList

-- A literal is a list of characters by definition, which is read faster than its bytes.
theorem qualifiers_ofList {sql : String} {chars : List Char} (same : sql = String.ofList chars) :
    qualifiers sql = (qualifiersFrom [] chars).map String.ofList := by
  rw [same, qualifiers, String.toList_ofList]

def ScopedText (scope : String → Prop) (sql : String) : Prop := ∀ name ∈ qualifiers sql, scope name

def endsApart (sql : String) : Bool := sql.toList.getLast?.any (!isWordChar ·)

theorem qualifiersFrom_append (word first second : List Char) :
    qualifiersFrom word (first ++ second) =
      qualifiersFrom word first ++ qualifiersFrom (first.foldl nextWord word) second := by
  induction first generalizing word with
  | nil => rfl
  | cons c rest ih => simp [qualifiersFrom, ih]

theorem qualifiersFrom_plain {text : List Char} (plain : '.' ∉ text) (word : List Char) :
    qualifiersFrom word text = [] := by
  induction text generalizing word with
  | nil => rfl
  | cons c rest ih =>
    have noDot : c ≠ '.' := fun dot => plain (by simp [dot])
    simp [qualifiersFrom, noDot, ih (List.not_mem_of_not_mem_cons plain)]

theorem foldl_nextWord_of_endsApart {sql : String} (apart : endsApart sql = true) (word : List Char) :
    sql.toList.foldl nextWord word = [] := by
  obtain ⟨c, last, stops⟩ := (Option.any_eq_true _ _).mp apart
  obtain ⟨before, split⟩ := List.getLast?_eq_some_iff.mp last
  rw [split, List.foldl_append]
  simpa [nextWord] using stops

theorem foldl_nextWord_of_word {text : List Char} (isWord : ∀ c ∈ text, isWordChar c = true)
    (word : List Char) : text.foldl nextWord word = word ++ text := by
  induction text generalizing word with
  | nil => simp
  | cons c rest ih =>
    obtain ⟨first, others⟩ := List.forall_mem_cons.mp isWord
    simp [nextWord, first, ih others]

theorem endsApart_append (first : String) {second : String} (apart : endsApart second = true) :
    endsApart (first ++ second) = true := by
  obtain ⟨c, last, stops⟩ := (Option.any_eq_true _ _).mp apart
  simpa [endsApart, List.getLast?_append, last] using stops

section Texts

variable {scope : String → Prop} {sql before after : String}

theorem ScopedText.ofPlain (plain : '.' ∉ sql.toList) : ScopedText scope sql := by
  simp [ScopedText, qualifiers, qualifiersFrom_plain plain]

theorem ScopedText.append (inScope : ScopedText scope before) (apart : endsApart before = true)
    (inScopeAfter : ScopedText scope after) : ScopedText scope (before ++ after) := by
  have split : qualifiers (before ++ after) = qualifiers before ++ qualifiers after := by
    simp [qualifiers, qualifiersFrom_append, foldl_nextWord_of_endsApart apart]
  intro name member
  rw [split] at member
  rcases List.mem_append.mp member with early | late
  · exact inScope name early
  · exact inScopeAfter name late

theorem ScopedText.appendPlain (inScope : ScopedText scope sql) (plain : '.' ∉ after.toList) :
    ScopedText scope (sql ++ after) := by
  have same : qualifiers (sql ++ after) = qualifiers sql := by
    simp [qualifiers, qualifiersFrom_append, qualifiersFrom_plain plain]
  rwa [ScopedText, same]

theorem ScopedText.parenthesized (inScope : ScopedText scope sql) :
    ScopedText scope (parenthesized sql) := by
  have opens : ScopedText scope "(" := .ofPlain (by decide)
  exact (opens.append (by decide) inScope).appendPlain (by decide)

theorem ScopedText.intercalate {separator : String} {texts : List String}
    (plain : '.' ∉ separator.toList) (apart : endsApart separator = true)
    (inScope : ∀ text ∈ texts, ScopedText scope text) :
    ScopedText scope (separator.intercalate texts) := by
  induction texts with
  | nil => exact .ofPlain (by simp)
  | cons text texts ih =>
    obtain ⟨first, others⟩ := List.forall_mem_cons.mp inScope
    cases texts with
    | nil => simpa using first
    | cons second texts =>
      rw [String.intercalate_cons_cons]
      exact (first.appendPlain plain).append (endsApart_append text apart) (ih others)

theorem ScopedText.joinConditions (connective : Connective) {conditions : List String}
    (inScope : ∀ condition ∈ conditions, ScopedText scope condition) :
    ScopedText scope (joinConditions connective conditions) := by
  match conditions with
  | [] => exact .ofPlain (by simp [Sql.joinConditions])
  | [condition] => exact inScope condition (by simp)
  | first :: second :: others =>
    rw [joinConditions_several]
    apply ScopedText.intercalate
    · cases connective <;> decide
    · cases connective <;> decide
    · intro text member
      obtain ⟨condition, present, rfl⟩ := List.mem_map.mp member
      exact (inScope condition present).parenthesized

end Texts

theorem Field.column?_words {field : Field} {column : Column} (found : field.column? = some column) :
    (∀ c ∈ column.table.toList, isWordChar c = true) ∧ opensNumber column.table.toList = false ∧
      '.' ∉ column.name.toList := by
  have checked : column.table.toList.all isWordChar = true ∧
      opensNumber column.table.toList = false ∧ column.name.toList.contains '.' = false := by
    cases field <;> cases found <;> decide
  simpa using checked

theorem qualifiers_column {field : Field} {column : Column} (found : field.column? = some column) :
    qualifiers column.qualified = [column.table] := by
  obtain ⟨word, notNumber, plain⟩ := field.column?_words found
  have noDot : '.' ∉ column.table.toList := fun member => by simpa [isWordChar] using word '.' member
  have dot : isWordChar '.' = false := by decide
  simp [qualifiers, Column.qualified, qualifiersFrom_append, qualifiersFrom_plain noDot,
    foldl_nextWord_of_word word, qualifiersFrom, notNumber, nextWord, dot, qualifiersFrom_plain plain]

theorem TestText.inScope {scope : String → Prop} {column sql : String} (test : TestText column sql)
    (inScope : ScopedText scope column) : ScopedText scope sql := by
  cases test with
  | @bound sqlOperator known =>
    have plain : '.' ∉ sqlOperator.toList := by
      simp only [List.mem_cons, List.not_mem_nil, or_false] at known
      rcases known with rfl | rfl | rfl <;> decide
    exact ((inScope.appendPlain (by decide)).appendPlain plain).appendPlain (by decide)
  | @below sqlOperator known =>
    have plain : '.' ∉ sqlOperator.toList := by
      simp only [List.mem_cons, List.not_mem_nil, or_false] at known
      rcases known with rfl | rfl <;> decide
    have first : ScopedText scope (column ++ " IS NULL OR ") := inScope.appendPlain (by decide)
    have both := first.append (endsApart_append column (by decide)) inScope
    exact ((both.appendPlain (by decide)).appendPlain plain).appendPlain (by decide)
  | missing => exact inScope.appendPlain (by decide)
  | present => exact inScope.appendPlain (by decide)
  | like =>
    have opens : ScopedText scope "lower(" := .ofPlain (by decide)
    exact (opens.append (by decide) inScope).appendPlain (by decide)
  | regexp =>
    have opens : ScopedText scope "regexp_matches(" := .ofPlain (by decide)
    exact (opens.append (by decide) inScope).appendPlain (by decide)
  | within =>
    have first : ScopedText scope (column ++ " IS NOT NULL AND ") := inScope.appendPlain (by decide)
    have second : ScopedText scope (column ++ " IS NOT NULL AND " ++ column ++ " >= ? AND ") :=
      (first.append (endsApart_append column (by decide)) inScope).appendPlain (by decide)
    exact (second.append (endsApart_append _ (by decide)) inScope).appendPlain (by decide)

end MediaSearch.Sql
