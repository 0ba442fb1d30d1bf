import MediaSearch.Proofs.Sql.Compilation
import MediaSearch.Proofs.Sql.Condition

set_option autoImplicit false

namespace MediaSearch.Query.Expr

open Sql (Truth)

inductive Filled : Expr → Prop
  | or {operands : List Expr} (nonempty : operands ≠ [])
    (each : ∀ operand ∈ operands, Filled operand) : Filled (.or operands)
  | and {operands : List Expr} (nonempty : operands ≠ [])
    (each : ∀ operand ∈ operands, Filled operand) : Filled (.and operands)
  | not {operand : Expr} (filled : Filled operand) : Filled (.not operand)
  | bracket {inner : Expr} (filled : Filled inner) : Filled (.bracket inner)
  | tests {predicates : List Predicate} (nonempty : predicates ≠ []) : Filled (.tests predicates)

mutual

def value (test : Predicate → Truth) : Expr → Truth
  | .or operands => Truth.any (valueAll test operands)
  | .and operands => Truth.all (valueAll test operands)
  | .not operand => (value test operand).not
  | .bracket inner => value test inner
  | .tests predicates => Truth.all (predicates.map test)

def valueAll (test : Predicate → Truth) : List Expr → List Truth
  | [] => []
  | operand :: operands => value test operand :: valueAll test operands

end

end MediaSearch.Query.Expr

namespace MediaSearch.Sql

open Query (Expr Predicate)
open Text (Balanced)

variable {username column : String} {atom : String → Truth} {result : Fragment}

def Fragment.value (atom : String → Truth) (fragment : Fragment) : Truth :=
  conditionValue atom fragment.condition.toList

theorem Field.column?_plain {field : Field} {column : Column} (found : field.column? = some column) :
    ∀ c ∈ column.qualified.toList, c ≠ '(' ∧ c ≠ ')' := by
  intro c member
  rcases field.column?_chars found c member with word | rfl
  · constructor <;> rintro rfl <;> exact absurd word (by decide)
  · decide

theorem TestText.balanced {sql : String} (plain : ∀ c ∈ column.toList, c ≠ '(' ∧ c ≠ ')')
    (text : TestText column sql) : Balanced sql.toList := by
  have name := Text.finalLevel?_of_plain plain
  cases text with
  | bound known =>
    simp only [List.mem_cons, List.not_mem_nil, or_false] at known
    rcases known with rfl | rfl | rfl <;>
      simp [Text.Balanced, Text.finalLevel?_append, name, Text.finalLevel?, Text.levelAfter?]
  | below known =>
    simp only [List.mem_cons, List.not_mem_nil, or_false] at known
    rcases known with rfl | rfl <;>
      simp [Text.Balanced, Text.finalLevel?_append, name, Text.finalLevel?, Text.levelAfter?]
  | _ => simp [Text.Balanced, Text.finalLevel?_append, name, Text.finalLevel?, Text.levelAfter?]

theorem TestText.nonempty {sql : String} (text : TestText column sql) : sql ≠ "" := by
  cases text <;> simp

theorem compilePredicate_condition {predicate : Predicate}
    (compiled : compilePredicate username predicate = .ok result) :
    Balanced result.condition.toList ∧ result.condition ≠ "" := by
  obtain ⟨field, column, test, _, found, ⟨sql, params, text, built⟩, required⟩ :=
    compilePredicate_ok compiled
  rw [requireField_ok required, (condition_ok built).2]
  exact ⟨text.balanced (Field.column?_plain found), text.nonempty⟩

theorem toList_joinConditions (connective : Connective) (first second : String)
    (others : List String) :
    (joinConditions connective (first :: second :: others)).toList =
      connective.separator.toList.intercalate
        (((first :: second :: others).map String.toList).map enclosed) := by
  have groups : ∀ conditions : List String,
      (conditions.map parenthesized).map String.toList =
        (conditions.map String.toList).map enclosed := by
    simp [toList_parenthesized]
  rw [joinConditions_several, String.toList_intercalate, groups]

theorem joinConditions_balanced (connective : Connective) {conditions : List String}
    (balanced : ∀ condition ∈ conditions, Balanced condition.toList) :
    Balanced (joinConditions connective conditions).toList := by
  match conditions with
  | [] => rfl
  | [condition] => exact balanced condition (by simp)
  | first :: second :: others =>
    rw [toList_joinConditions]
    exact balanced_groups connective (by simpa using balanced)

theorem joinConditions_nonempty (connective : Connective) {conditions : List String}
    (some : conditions ≠ []) (nonempty : ∀ condition ∈ conditions, condition ≠ "") :
    joinConditions connective conditions ≠ "" := by
  match conditions with
  | [] => exact absurd rfl some
  | [condition] => exact nonempty condition (by simp)
  | first :: second :: others =>
    rw [← String.toList_inj.ne, toList_joinConditions]
    simp [enclosed]

theorem joinConditions_value (connective : Connective) {conditions : List String}
    (some : conditions ≠ []) (balanced : ∀ condition ∈ conditions, Balanced condition.toList) :
    conditionValue atom (joinConditions connective conditions).toList =
      joinTruth connective (conditions.map fun condition => conditionValue atom condition.toList) := by
  match conditions with
  | [] => exact absurd rfl some
  | [condition] => cases connective <;> simp [joinConditions, joinTruth]
  | first :: second :: others =>
    rw [toList_joinConditions, conditionValue_groups connective (by simp) (by simpa using balanced),
      List.map_map]
    rfl

section Combined

variable {connective : Connective} {parts : List Fragment}

theorem mem_conditions {condition : String} (member : condition ∈ Fragment.conditions parts) :
    ∃ part ∈ parts, part.condition = condition := by
  simpa using (List.mem_filter.mp member).1

theorem conditions_eq_map (nonempty : ∀ part ∈ parts, part.condition ≠ "") :
    Fragment.conditions parts = parts.map (·.condition) := by
  refine List.filter_eq_self.mpr fun condition member => ?_
  obtain ⟨part, present, rfl⟩ := List.mem_map.mp member
  simpa using nonempty part present

theorem combine_balanced (balanced : ∀ part ∈ parts, Balanced part.condition.toList)
    (combined : Fragment.combine connective parts = .ok result) :
    Balanced result.condition.toList := by
  rw [Fragment.combine_ok combined]
  refine joinConditions_balanced connective fun condition member => ?_
  obtain ⟨part, present, rfl⟩ := mem_conditions member
  exact balanced part present

theorem combine_nonempty (some : parts ≠ []) (nonempty : ∀ part ∈ parts, part.condition ≠ "")
    (combined : Fragment.combine connective parts = .ok result) : result.condition ≠ "" := by
  rw [Fragment.combine_ok combined, conditions_eq_map nonempty]
  exact joinConditions_nonempty connective (by simpa using some) (by simpa using nonempty)

theorem combine_value (some : parts ≠ []) (nonempty : ∀ part ∈ parts, part.condition ≠ "")
    (balanced : ∀ part ∈ parts, Balanced part.condition.toList)
    (combined : Fragment.combine connective parts = .ok result) :
    result.value atom = joinTruth connective (parts.map (Fragment.value atom)) := by
  rw [Fragment.combine_ok combined, conditions_eq_map nonempty]
  calc conditionValue atom (joinConditions connective (parts.map (·.condition))).toList
      = joinTruth connective ((parts.map (·.condition)).map fun condition =>
          conditionValue atom condition.toList) :=
        joinConditions_value connective (by simpa using some) (by simpa using balanced)
    _ = joinTruth connective (parts.map (Fragment.value atom)) := by
        rw [List.map_map]
        rfl

end Combined

def testValue (username : String) (atom : String → Truth) (predicate : Predicate) : Truth :=
  match compilePredicate username predicate with
  | .ok fragment => fragment.value atom
  | .error _ => .unknown

-- What carries the induction: groups are found in a text only if its parentheses match, and an empty
-- condition would drop out of a conjunction.
structure Reads (username : String) (atom : String → Truth) (expr : Expr) (fragment : Fragment) :
    Prop where
  balanced : Balanced fragment.condition.toList
  nonempty : expr.Filled → fragment.condition ≠ ""
  value : expr.Filled → fragment.value atom = expr.value (testValue username atom)

theorem reads_not {operand : Expr} {fragment : Fragment}
    (reads : Reads username atom operand fragment) :
    Reads username atom (.not operand) fragment.not := by
  have inside : (Expr.not operand).Filled → operand.Filled := fun filled => by
    cases filled with
    | not filled => exact filled
  by_cases isEmpty : fragment.condition.isEmpty = true
  · -- only an expression with an empty list in it has no condition
    have unchanged : fragment.not = fragment := if_pos isEmpty
    have blank : fragment.condition = "" := by simpa using isEmpty
    rw [unchanged]
    refine ⟨reads.balanced, fun filled => reads.nonempty (inside filled), fun filled => ?_⟩
    exact absurd blank (reads.nonempty (inside filled))
  · have negated : fragment.not.condition.toList =
        "NOT ".toList ++ enclosed fragment.condition.toList := by
      rw [Fragment.not, if_neg isEmpty, String.toList_append, toList_parenthesized]
    refine ⟨?_, fun _ blank => ?_, fun filled => ?_⟩
    · rw [negated]
      exact Text.Balanced.append (by decide) reads.balanced.parenthesized
    · simp [blank] at negated
    · calc fragment.not.value atom
          = conditionValue atom ("NOT ".toList ++ enclosed fragment.condition.toList) := by
            rw [Fragment.value, negated]
        _ = (fragment.value atom).not := conditionValue_not reads.balanced
        _ = (Expr.not operand).value (testValue username atom) := by
            rw [reads.value (inside filled), Expr.value]

theorem reads_bracket {inner : Expr} {fragment : Fragment}
    (reads : Reads username atom inner fragment) :
    Reads username atom (.bracket inner) fragment.enclose := by
  have inside : (Expr.bracket inner).Filled → inner.Filled := fun filled => by
    cases filled with
    | bracket filled => exact filled
  by_cases kept : (fragment.condition.isEmpty || isEnclosed fragment.condition) = true
  · have unchanged : fragment.enclose = fragment := if_pos kept
    rw [unchanged]
    refine ⟨reads.balanced, fun filled => reads.nonempty (inside filled), fun filled => ?_⟩
    rw [reads.value (inside filled), Expr.value]
  · have wrapped : fragment.enclose.condition.toList = enclosed fragment.condition.toList := by
      rw [Fragment.enclose, if_neg kept, toList_parenthesized]
    refine ⟨?_, fun _ blank => ?_, fun filled => ?_⟩
    · rw [wrapped]
      exact reads.balanced.parenthesized
    · simp [blank, enclosed] at wrapped
    · calc fragment.enclose.value atom
          = conditionValue atom (enclosed fragment.condition.toList) := by
            rw [Fragment.value, wrapped]
        _ = fragment.value atom := conditionValue_enclosed reads.balanced
        _ = (Expr.bracket inner).value (testValue username atom) := by
            rw [reads.value (inside filled), Expr.value]

theorem ne_nil_of_forall₂ {α β : Type} {related : α → β → Prop} {lefts : List α} {rights : List β}
    (each : List.Forall₂ related lefts rights) (some : lefts ≠ []) : rights ≠ [] := by
  cases each with
  | nil => exact absurd rfl some
  | cons => simp

section Operands

variable {connective : Connective} {operands : List Expr} {parts : List Fragment}

theorem values_of_reads (each : List.Forall₂ (Reads username atom) operands parts)
    (filled : ∀ operand ∈ operands, operand.Filled) :
    parts.map (Fragment.value atom) = Expr.valueAll (testValue username atom) operands := by
  induction each with
  | nil => rfl
  | cons first _ ih =>
    rw [List.map_cons, Expr.valueAll, first.value (filled _ (by simp)),
      ih fun operand member => filled operand (by simp [member])]

theorem reads_combined {whole : Expr} (each : List.Forall₂ (Reads username atom) operands parts)
    (combined : Fragment.combine connective parts = .ok result)
    (inside : whole.Filled → operands ≠ [] ∧ ∀ operand ∈ operands, operand.Filled)
    (meaning : whole.value (testValue username atom) =
      joinTruth connective (Expr.valueAll (testValue username atom) operands)) :
    Reads username atom whole result := by
  have balanced : ∀ part ∈ parts, Balanced part.condition.toList := fun part member => by
    obtain ⟨operand, _, reads⟩ := exists_left_of_mem each member
    exact reads.balanced
  have nonempty : whole.Filled → ∀ part ∈ parts, part.condition ≠ "" := fun filled part member => by
    obtain ⟨operand, present, reads⟩ := exists_left_of_mem each member
    exact reads.nonempty ((inside filled).2 operand present)
  refine ⟨combine_balanced balanced combined, fun filled => ?_, fun filled => ?_⟩
  · exact combine_nonempty (ne_nil_of_forall₂ each (inside filled).1) (nonempty filled) combined
  · rw [combine_value (ne_nil_of_forall₂ each (inside filled).1) (nonempty filled) balanced combined,
      values_of_reads each (inside filled).2, meaning]

theorem testValue_of_ok {predicate : Predicate}
    (compiled : compilePredicate username predicate = .ok result) :
    testValue username atom predicate = result.value atom := by
  simp [testValue, compiled]

theorem values_of_tests {predicates : List Predicate}
    (each : List.Forall₂ (fun predicate part => compilePredicate username predicate = .ok part)
      predicates parts) :
    parts.map (Fragment.value atom) = predicates.map (testValue username atom) := by
  induction each with
  | nil => rfl
  | cons first _ ih => rw [List.map_cons, List.map_cons, ih, testValue_of_ok first]

theorem reads_tests {predicates : List Predicate}
    (each : List.Forall₂ (fun predicate part => compilePredicate username predicate = .ok part)
      predicates parts)
    (combined : Fragment.combine .and parts = .ok result) :
    Reads username atom (.tests predicates) result := by
  have sound : ∀ part ∈ parts, Balanced part.condition.toList ∧ part.condition ≠ "" :=
    fun part member => by
      obtain ⟨predicate, _, compiled⟩ := exists_left_of_mem each member
      exact compilePredicate_condition compiled
  have balanced := fun part member => (sound part member).1
  have nonempty := fun part member => (sound part member).2
  have inside : (Expr.tests predicates).Filled → parts ≠ [] := fun filled => by
    cases filled with
    | tests some => exact ne_nil_of_forall₂ each some
  refine ⟨combine_balanced balanced combined, fun filled => ?_, fun filled => ?_⟩
  · exact combine_nonempty (inside filled) nonempty combined
  · rw [combine_value (inside filled) nonempty balanced combined, values_of_tests each, Expr.value]
    rfl

theorem compileExpr_reads {expr : Expr} (compiled : compileExpr username expr = .ok result) :
    Reads username atom expr result := by
  refine compileExpr_induction ?or ?and reads_not reads_bracket reads_tests compiled
  case or =>
    intro operands parts result each combined
    refine reads_combined each combined (fun filled => ?_) (by rw [Expr.value]; rfl)
    cases filled with
    | or nonempty each => exact ⟨nonempty, each⟩
  case and =>
    intro operands parts result each combined
    refine reads_combined each combined (fun filled => ?_) (by rw [Expr.value]; rfl)
    cases filled with
    | and nonempty each => exact ⟨nonempty, each⟩

end Operands

theorem compileExpr_value {username : String} {atom : String → Truth} {expr : Expr}
    {fragment : Fragment} (filled : expr.Filled) (compiled : compileExpr username expr = .ok fragment) :
    conditionValue atom fragment.condition.toList = expr.value (testValue username atom) :=
  (compileExpr_reads compiled).value filled

def recentAndShort : Expr :=
  .and
    [.not (.or [.tests [.compare "year" .less "2000"], .tests [.compare "genre" .exactly "rock"]]),
     .bracket (.tests [.between "duration" "60" "90"])]

def recentAndShortCondition : String :=
  "(NOT ((media_file.year IS NULL OR media_file.year < ?) OR (media_file.genre = ?))) AND " ++
    "((media_file.duration IS NOT NULL AND media_file.duration >= ? AND media_file.duration <= ?))"

theorem compileExpr_value_recentAndShort :
    recentAndShort.Filled ∧ ∃ fragment, compileExpr "ann" recentAndShort = .ok fragment ∧
      fragment.condition = recentAndShortCondition ∧
      ∀ atom, conditionValue atom fragment.condition.toList =
        recentAndShort.value (testValue "ann" atom) := by
  have filled : recentAndShort.Filled := by
    refine .and (by simp) (List.forall_mem_cons.mpr ⟨.not (.or (by simp) ?_), ?_⟩)
    · simpa using ⟨.tests (by simp), .tests (by simp)⟩
    · simpa using .bracket (.tests (by simp))
  have text : (compileExpr "ann" recentAndShort).toOption.map (·.condition) =
      some recentAndShortCondition := by
    decide +kernel
  cases compiled : compileExpr "ann" recentAndShort with
  | error error => simp [compiled, Except.toOption] at text
  | ok fragment =>
    refine ⟨filled, fragment, rfl, ?_, fun atom => compileExpr_value filled compiled⟩
    simpa [compiled, Except.toOption] using text

end MediaSearch.Sql
