import MediaSearch.Proofs.Query.OrderComposition
import MediaSearch.Proofs.Sql.Failures
import MediaSearch.Proofs.Sql.Union

set_option autoImplicit false

namespace MediaSearch.Sql

open Query (OrderKey parseOrder)
open Text (byteLength)

variable {username : String} {fragment result : Fragment} {keys first second : List OrderKey}

theorem AliasMap.Holds.unique {α : Type} {need : Field → List (String × α)} {fields : List Field}
    {map other : AliasMap α} (holds : map.Holds need fields) (holdsOther : other.Holds need fields) :
    map = other := by
  apply AliasMap.ext_get?
  intro name value
  rw [← AliasMap.mem_entries_iff, ← AliasMap.mem_entries_iff, holds, holdsOther]

theorem compileOrderKeys_uses (compiled : compileOrderKeys username keys = .ok result) :
    result.Uses username (keyFields keys) :=
  addOrderKeys_uses .empty compiled

theorem eq_mergeOrder {left right merged whole : Fragment}
    (compiledFirst : compileOrderKeys username first = .ok left)
    (compiledSecond : compileOrderKeys username second = .ok right)
    (joined : left.mergeOrder right = .ok merged)
    (compiled : compileOrderKeys username (first ++ second) = .ok whole) : whole = merged := by
  have uses : merged.Uses username (keyFields first ++ keyFields second) :=
    (compileOrderKeys_uses compiledFirst).mergeOrder (compileOrderKeys_uses compiledSecond) joined
  have usesWhole : whole.Uses username (keyFields first ++ keyFields second) := by
    have named := compileOrderKeys_uses compiled
    rwa [keyFields, List.filterMap_append] at named
  obtain ⟨sortsFirst, conditionFirst, paramsFirst⟩ := addOrderKeys_sorts compiledFirst
  obtain ⟨sortsSecond, -, -⟩ := addOrderKeys_sorts compiledSecond
  obtain ⟨sorts, condition, params⟩ := addOrderKeys_sorts compiled
  apply Fragment.eq_of_parts
  case joins => exact usesWhole.joins.unique uses.joins
  case selects => exact usesWhole.selects.unique uses.selects
  case order =>
    rw [sorts, Fragment.mergeOrder_ok joined, sortsFirst, sortsSecond, keyItems, List.filterMap_append]
    rfl
  case condition => rw [condition, Fragment.mergeOrder_ok joined, conditionFirst]
  case params => rw [params, Fragment.mergeOrder_ok joined, paramsFirst]

theorem compileOrderKeys_append (username : String) (first second : List OrderKey) :
    compileOrderKeys username (first ++ second) = (do
      let left ← compileOrderKeys username first
      let right ← compileOrderKeys username second
      (left.mergeOrder right).mapError .fragment) := by
  have whole : failure? (compileOrderKeys username (first ++ second)) = keysFailure? (first ++ second) :=
    (addOrderKeys_reports .empty (first ++ second)).failure?_eq
  have parts : Reports ((keysFailure? first).or (keysFailure? second)) (Fragment.OfFields username) (do
      let left ← compileOrderKeys username first
      let right ← compileOrderKeys username second
      (left.mergeOrder right).mapError .fragment) := by
    refine (addOrderKeys_reports .empty first).bind fun left _ madeLeft => ?_
    refine (addOrderKeys_reports .empty second).andThen fun right madeRight => ?_
    exact (mergeOrder_returns madeLeft madeRight).mapError
  apply eq_of_failure?_eq
  case failures => rw [whole, parts.failure?_eq, keysFailure?, List.findSome?_append, keysFailure?, keysFailure?]
  case agree =>
    intro whole merged compiled parts
    obtain ⟨left, compiledFirst, remaining⟩ := bind_eq_ok.mp parts
    obtain ⟨right, compiledSecond, joined⟩ := bind_eq_ok.mp remaining
    exact eq_mergeOrder compiledFirst compiledSecond (mapError_eq_ok.mp joined) compiled

theorem order_lists_compose :
    (∀ first second keys more, parseOrder first = .ok keys → parseOrder second = .ok more →
      parseOrder (first ++ "," ++ second) = .ok (keys ++ more)) ∧
    (∀ first second error, parseOrder first = .error error →
      ∃ found, error = .malformed found ∧
        parseOrder (first ++ "," ++ second) =
          .error (.malformed { found with input := first ++ "," ++ second })) ∧
    (∀ first second keys error, parseOrder first = .ok keys → parseOrder second = .error error →
      ∃ found, error = .malformed found ∧
        parseOrder (first ++ "," ++ second) =
          .error (.malformed
            { fault := found.fault
              input := first ++ "," ++ second
              offset := byteLength first.toList + 1 + found.offset
              position := found.position.behind (first ++ ",").toList })) ∧
    ∀ username first second,
      (compileOrderKeys username (first ++ second) = do
        let left ← compileOrderKeys username first
        let right ← compileOrderKeys username second
        (left.mergeOrder right).mapError .fragment) ∧
      ∀ left right, compileOrderKeys username first = .ok left → compileOrderKeys username second = .ok right →
        ∃ made, left.mergeOrder right = .ok made ∧ compileOrderKeys username (first ++ second) = .ok made := by
  refine ⟨?both, ?inFirst, ?inSecond, fun username first second => ⟨?parts, ?merges⟩⟩
  case both =>
    intro first second keys more readFirst readSecond
    exact Query.parseOrder_both readFirst readSecond
  case inFirst =>
    intro first second error failed
    exact Query.parseOrder_first_fails failed second
  case inSecond =>
    intro first second keys error read failed
    exact Query.parseOrder_second_fails read failed
  case parts => exact compileOrderKeys_append username first second
  case merges =>
    intro left right compiledFirst compiledSecond
    have madeLeft := ((addOrderKeys_reports .empty first).of_ok compiledFirst).2
    have madeRight := ((addOrderKeys_reports .empty second).of_ok compiledSecond).2
    obtain ⟨made, joined, -⟩ := (mergeOrder_returns madeLeft madeRight).exists_ok
    refine ⟨made, joined, ?_⟩
    rw [compileOrderKeys_append, compiledFirst, compiledSecond]
    exact mapError_eq_ok.mpr joined

theorem order_lists_compose_wide :
    parseOrder "-Ranking, year," = .ok [⟨"ranking", .descending⟩, ⟨"year", .ascending⟩] ∧
    parseOrder "a,\né,b" = .error (.malformed ⟨.characterInOrderField 'é' "é", "a,\né,b", 3, ⟨2, 0⟩⟩) ∧
    parseOrder "\u3000year\n,x,\u2003é" =
      .error (.malformed ⟨.characterInOrderField 'é' "é", "\u3000year\n,x,\u2003é", 14, ⟨2, 4⟩⟩) ∧
    ∃ left right made, compileOrderKeys "ann" [⟨"ranking", .descending⟩] = .ok left ∧
      compileOrderKeys "ann" [⟨"starred", .ascending⟩, ⟨"ranking", .ascending⟩] = .ok right ∧
      left.mergeOrder right = .ok made ∧
      compileOrderKeys "ann" [⟨"ranking", .descending⟩, ⟨"starred", .ascending⟩, ⟨"ranking", .ascending⟩] =
        .ok made := by
  obtain ⟨both, inFirst, inSecond, compiled⟩ := order_lists_compose
  have firstFails : parseOrder "a,\né" =
      .error (.malformed ⟨.characterInOrderField 'é' "é", "a,\né", 3, ⟨2, 0⟩⟩) := rfl
  have secondFails : parseOrder "x,\u2003é" =
      .error (.malformed ⟨.characterInOrderField 'é' "é", "x,\u2003é", 5, ⟨1, 3⟩⟩) := rfl
  obtain ⟨_, same, early⟩ := inFirst _ "b" _ firstFails
  obtain ⟨_, same', late⟩ := inSecond "\u3000year\n" _ _ _ rfl secondFails
  cases same
  cases same'
  have known (keys : List OrderKey) (named : keysFailure? keys = none) :
      ∃ made, compileOrderKeys "ann" keys = .ok made :=
    failure?_eq_none.mp ((addOrderKeys_reports .empty keys).failure?_eq.trans named)
  obtain ⟨left, compiledFirst⟩ := known [⟨"ranking", .descending⟩] rfl
  obtain ⟨right, compiledSecond⟩ := known [⟨"starred", .ascending⟩, ⟨"ranking", .ascending⟩] rfl
  obtain ⟨made, merged, whole⟩ := (compiled "ann" _ _).2 left right compiledFirst compiledSecond
  exact ⟨both "-Ranking" " year," _ _ rfl rfl, early, late, left, right, made, compiledFirst, compiledSecond,
    merged, whole⟩

end MediaSearch.Sql
