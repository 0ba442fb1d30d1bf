import MediaSearch.Proofs.Sql.Meaning

set_option autoImplicit false

namespace MediaSearch.Sql

open Query (Expr OrderKey Predicate)
open Text (Balanced Matched finalLevel? levelAfter?)

variable {username : String} {fragment other result : Fragment}

theorem exists_inner_cons {c last : Char} {text : List Char} {holds : List Char → Prop} :
    (∃ inner, c :: text = inner ++ [last] ∧ holds inner) ↔
      (c = last ∧ text = [] ∧ holds []) ∨ ∃ inner, text = inner ++ [last] ∧ holds (c :: inner) := by
  constructor
  · rintro ⟨inner, whole, right⟩
    cases inner with
    | nil =>
      obtain ⟨same, none⟩ := List.cons.inj whole
      exact .inl ⟨same, none, right⟩
    | cons first inner =>
      obtain ⟨rfl, rest⟩ := List.cons.inj whole
      exact .inr ⟨inner, rest, right⟩
  · rintro (⟨rfl, rfl, right⟩ | ⟨inner, rfl, right⟩)
    · exact ⟨[], rfl, right⟩
    · exact ⟨c :: inner, rfl, right⟩

-- With `level` more groups open inside the one that is looked at.
theorem closesAtEnd_iff {level : Nat} {text : List Char} :
    closesAtEnd (level + 1) text = true ↔ ∃ inner, text = inner ++ [')'] ∧ finalLevel? level inner = some 0 := by
  induction text generalizing level with
  | nil => simp [closesAtEnd]
  | cons c text ih =>
    rw [exists_inner_cons]
    by_cases opens : c = '('
    · subst opens
      simp [closesAtEnd, ih, finalLevel?, levelAfter?]
    · by_cases closes : c = ')'
      · subst closes
        cases level with
        | zero => simp [closesAtEnd, finalLevel?, levelAfter?]
        | succ level => simp [closesAtEnd, ih, finalLevel?, levelAfter?]
      · simp [closesAtEnd, ih, opens, closes, finalLevel?, Text.levelAfter?_of_plain]

theorem isEnclosed_iff {sql : String} :
    isEnclosed sql = true ↔ ∃ inner, Balanced inner ∧ sql.toList = enclosed inner := by
  unfold isEnclosed
  constructor
  · intro isGroup
    simp only [Bool.and_eq_true, beq_iff_eq] at isGroup
    obtain ⟨⟨opens, -⟩, closes⟩ := isGroup
    obtain ⟨rest, whole⟩ := List.head?_eq_some_iff.mp opens
    have inside : closesAtEnd 1 rest = true := by
      rwa [whole, closesAtEnd, if_pos rfl] at closes
    obtain ⟨inner, rfl, balanced⟩ := closesAtEnd_iff.mp inside
    exact ⟨inner, balanced, whole⟩
  · rintro ⟨inner, balanced, whole⟩
    have first : sql.toList.head? = some '(' := by rw [whole, enclosed, List.head?_cons]
    have last : sql.toList.getLast? = some ')' := by rw [whole, enclosed, ← List.cons_append, List.getLast?_concat]
    have closes : closesAtEnd 0 sql.toList = true := by
      rw [whole, enclosed, closesAtEnd, if_pos rfl]
      exact closesAtEnd_iff.mpr ⟨inner, rfl, balanced⟩
    simp [first, last, closes]

theorem isEnclosed_iff_matched {sql : String} :
    isEnclosed sql = true ↔ ∃ inner : String, Matched inner.toList ∧ sql = "(" ++ inner ++ ")" := by
  rw [isEnclosed_iff]
  constructor
  · rintro ⟨inner, balanced, whole⟩
    refine ⟨String.ofList inner, ?_, ?_⟩
    · simpa [← Text.balanced_iff] using balanced
    · rw [← String.toList_inj, whole]
      simp [enclosed]
  · rintro ⟨inner, isMatched, rfl⟩
    exact ⟨inner.toList, Text.balanced_iff.mpr isMatched, toList_parenthesized inner⟩

theorem isEnclosed_count {sql : String} (isGroup : isEnclosed sql = true) :
    sql.toList.count '(' = sql.toList.count ')' := by
  obtain ⟨inner, isMatched, rfl⟩ := isEnclosed_iff_matched.mp isGroup
  simp [isMatched.whole]

-- The first group of a text is the only one that can span it: a longer one would have a beginning that closes
-- more than it opens.
theorem isEnclosed_append_iff {inner rest : String} (isMatched : Matched inner.toList) :
    isEnclosed ("(" ++ inner ++ ")" ++ rest) = true ↔ rest = "" := by
  rw [isEnclosed_iff_matched]
  constructor
  · rintro ⟨other, otherMatched, whole⟩
    have same : (inner.toList ++ [')']) ++ rest.toList = other.toList ++ [')'] := by
      simpa [← String.toList_inj] using whole
    by_contra nonempty
    have positive : 0 < rest.toList.length := List.length_pos_iff.mpr (by simpa using nonempty)
    have lengths := congrArg List.length same
    simp only [List.length_append, List.length_singleton] at lengths
    have longer : inner.toList ++ [')'] <+: other.toList :=
      List.prefix_of_prefix_length_le ⟨rest.toList, same⟩ (List.prefix_append other.toList [')'])
        (by rw [List.length_append, List.length_singleton]; omega)
    have closed : inner.toList.count ')' + 1 ≤ inner.toList.count '(' := by
      simpa using otherMatched.beginning _ longer
    have opened := isMatched.whole
    omega
  · rintro rfl
    exact ⟨inner, isMatched, by simp⟩

theorem isEnclosed_exactly_one_group (sql : String) :
    (isEnclosed sql = true ↔ ∃ inner : String, Matched inner.toList ∧ sql = "(" ++ inner ++ ")") ∧
    (isEnclosed sql = true → sql.toList.count '(' = sql.toList.count ')') ∧
    (∀ inner rest : String, Matched inner.toList → sql = "(" ++ inner ++ ")" ++ rest →
      (isEnclosed sql = true ↔ rest = "")) ∧
    ∀ other ∈ ["(a) OR (b)", "((a)", "(a))", ")("], isEnclosed other = false := by
  refine ⟨isEnclosed_iff_matched, isEnclosed_count, ?_, by decide +kernel⟩
  rintro inner rest isMatched rfl
  exact isEnclosed_append_iff isMatched

theorem isEnclosed_exactly_one_group_wide :
    isEnclosed "((é) OR (名))" = true ∧ Matched "é".toList ∧ isEnclosed "(é) OR (名)" = false := by
  have inside : Matched "(é) OR (名)".toList := Text.balanced_iff.mp (by decide +kernel)
  have first : Matched "é".toList := Text.balanced_iff.mp (by decide +kernel)
  have grouped := (isEnclosed_exactly_one_group "((é) OR (名))").1.mpr ⟨"(é) OR (名)", inside, by decide⟩
  have apart := (isEnclosed_exactly_one_group "(é) OR (名)").2.2.1 "é" " OR (名)" first (by decide)
  exact ⟨grouped, first, Bool.eq_false_iff.mpr fun isGroup => absurd (apart.mp isGroup) (by decide)⟩

def Fragment.IsGroup (fragment : Fragment) : Prop :=
  ∃ inner : String, Matched inner.toList ∧ fragment.condition = "(" ++ inner ++ ")"

theorem isEnclosed_condition_iff : isEnclosed fragment.condition = true ↔ fragment.IsGroup :=
  isEnclosed_iff_matched

theorem enclose_of_kept (kept : fragment.condition = "" ∨ fragment.IsGroup) : fragment.enclose = fragment := by
  unfold Fragment.enclose
  rw [if_pos]
  rw [Bool.or_eq_true, isEnclosed_condition_iff]
  exact kept.imp_left fun blank => by simp [blank]

theorem enclose_of_not_kept (bare : ¬ (fragment.condition = "" ∨ fragment.IsGroup)) :
    fragment.enclose = { fragment with condition := parenthesized fragment.condition } := by
  unfold Fragment.enclose
  rw [if_neg]
  rw [Bool.or_eq_true, isEnclosed_condition_iff]
  simpa using bare

theorem enclose_enclose (balanced : Balanced fragment.condition.toList) :
    fragment.enclose.enclose = fragment.enclose := by
  by_cases kept : fragment.condition = "" ∨ fragment.IsGroup
  · rw [enclose_of_kept kept, enclose_of_kept kept]
  · rw [enclose_of_not_kept kept]
    apply enclose_of_kept
    right
    exact ⟨fragment.condition, Text.balanced_iff.mp balanced, rfl⟩

theorem compileExpr_bracket (username : String) (expr : Expr) :
    compileExpr username (.bracket expr) = (compileExpr username expr).map Fragment.enclose := by
  rw [compileExpr]
  cases compileExpr username expr <;> rfl

theorem compileExpr_balanced {expr : Expr} (compiled : compileExpr username expr = .ok result) :
    Balanced result.condition.toList := by
  have reads : Reads username (fun _ => .unknown) expr result := compileExpr_reads compiled
  exact reads.balanced

theorem compileQuery_balanced {query : String} (compiled : compileQuery query username = .ok result) :
    Balanced result.condition.toList := by
  unfold compileQuery at compiled
  split at compiled
  · cases compiled
    rfl
  · obtain ⟨expr, _, whole⟩ := bind_eq_ok.mp compiled
    exact compileExpr_balanced whole

theorem restriction_balanced {scope : Scope} {sql : String} (restricts : scope.restriction? = some sql) :
    Balanced sql.toList := by
  cases scope <;> cases restricts <;> decide

theorem restrict_balanced {scope : Scope} (balanced : Balanced fragment.condition.toList)
    (restricted : restrict scope fragment = .ok result) : Balanced result.condition.toList := by
  unfold restrict at restricted
  split at restricted
  · cases restricted
    exact balanced
  · next sql restricts =>
    obtain ⟨limit, built, joined⟩ := bind_eq_ok.mp restricted
    refine combine_balanced ?_ (mapError_eq_ok.mp joined)
    have limited : Balanced limit.condition.toList := by
      rw [(condition_ok built).2]
      exact restriction_balanced restricts
    simpa using ⟨balanced, limited⟩

inductive Compiled (username : String) : Fragment → Prop
  | test {predicate : Predicate} {fragment : Fragment}
      (compiled : compilePredicate username predicate = .ok fragment) : Compiled username fragment
  | expr {expr : Expr} {fragment : Fragment} (compiled : compileExpr username expr = .ok fragment) :
      Compiled username fragment
  | keys {keys : List OrderKey} {fragment : Fragment} (compiled : compileOrderKeys username keys = .ok fragment) :
      Compiled username fragment
  | search {query order : String} {scope : Scope} {fragment : Fragment}
      (compiled : compile query order username scope = .ok fragment) : Compiled username fragment

theorem Compiled.balanced (compiled : Compiled username fragment) : Balanced fragment.condition.toList := by
  cases compiled with
  | test compiled => exact (compilePredicate_condition compiled).1
  | expr compiled => exact compileExpr_balanced compiled
  | keys compiled =>
    rw [(addOrderKeys_sorts compiled).2.1]
    rfl
  | search compiled =>
    obtain ⟨matched, found, afterQuery⟩ := bind_eq_ok.mp compiled
    obtain ⟨restricted, limited, afterScope⟩ := bind_eq_ok.mp afterQuery
    obtain ⟨keys, _, afterKeys⟩ := bind_eq_ok.mp afterScope
    obtain ⟨sorted, _, merged⟩ := bind_eq_ok.mp afterKeys
    have balanced := restrict_balanced (compileQuery_balanced found) limited
    rw [Fragment.mergeOrder_ok (mapError_eq_ok.mp merged)]
    exact balanced

theorem redundant_brackets (username : String) :
    (∀ expr fragment, compileExpr username expr = .ok fragment →
      Matched fragment.condition.toList ∧
      compileExpr username (.bracket expr) = .ok fragment.enclose ∧
      ((fragment.condition = "" ∨ fragment.IsGroup) ∧ fragment.enclose = fragment ∨
        ¬ (fragment.condition = "" ∨ fragment.IsGroup) ∧
          fragment.enclose = { fragment with condition := "(" ++ fragment.condition ++ ")" })) ∧
    (∀ expr, compileExpr username (.bracket (.bracket expr)) = compileExpr username (.bracket expr)) ∧
    ∀ fragment, Compiled username fragment →
      Matched fragment.condition.toList ∧ fragment.enclose.enclose = fragment.enclose := by
  refine ⟨?once, ?twice, ?every⟩
  case once =>
    intro expr fragment compiled
    refine ⟨Text.balanced_iff.mp (compileExpr_balanced compiled), ?_, ?_⟩
    · rw [compileExpr_bracket, compiled]
      rfl
    · by_cases kept : fragment.condition = "" ∨ fragment.IsGroup
      · exact .inl ⟨kept, enclose_of_kept kept⟩
      · exact .inr ⟨kept, enclose_of_not_kept kept⟩
  case twice =>
    intro expr
    rw [compileExpr_bracket, compileExpr_bracket]
    cases compiled : compileExpr username expr with
    | error error => rfl
    | ok fragment => exact congrArg Except.ok (enclose_enclose (compileExpr_balanced compiled))
  case every =>
    intro fragment compiled
    exact ⟨Text.balanced_iff.mp compiled.balanced, enclose_enclose compiled.balanced⟩

def adjacentTests : Expr := .tests [.compare "year" .less "2000", .compare "genre" .contains "rock"]

def adjacentCondition : String :=
  "(media_file.year IS NULL OR media_file.year < ?) AND (lower(media_file.genre) LIKE ?)"

theorem redundant_brackets_adjacent :
    ∃ fragment, compileExpr "ann" adjacentTests = .ok fragment ∧ fragment.condition = adjacentCondition ∧
      Matched fragment.condition.toList ∧
      compileExpr "ann" (.bracket adjacentTests) =
        .ok { fragment with condition := "(" ++ fragment.condition ++ ")" } ∧
      Compiled "ann" fragment ∧ fragment.enclose.enclose = fragment.enclose := by
  obtain ⟨once, -, every⟩ := redundant_brackets "ann"
  have text : (compileExpr "ann" adjacentTests).toOption.map (·.condition) = some adjacentCondition := by
    decide +kernel
  cases compiled : compileExpr "ann" adjacentTests with
  | error error => simp [compiled, Except.toOption] at text
  | ok fragment =>
    have same : fragment.condition = adjacentCondition := by simpa [compiled, Except.toOption] using text
    obtain ⟨isMatched, bracketed, kept | ⟨-, wrapped⟩⟩ := once _ _ compiled
    · have bare : ¬ (fragment.condition = "" ∨ fragment.IsGroup) := by
        rw [← isEnclosed_condition_iff, same]
        decide +kernel
      exact absurd kept.1 bare
    · exact ⟨fragment, rfl, same, isMatched, wrapped ▸ bracketed, .expr compiled, (every _ (.expr compiled)).2⟩

end MediaSearch.Sql
