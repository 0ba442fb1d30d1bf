import MediaSearch.Proofs.Sql.Brackets
import MediaSearch.Proofs.Sql.Failures
import MediaSearch.Proofs.Sql.Union
import MediaSearch.Proofs.Sql.WrittenValues

set_option autoImplicit false

namespace MediaSearch.Sql

open Query (Predicate)
open Text (Balanced)

variable {scope : Scope} {restriction username : String} {fragment : Fragment}

def withRestriction (restriction condition : String) : String :=
  if condition = "" then restriction else "(" ++ condition ++ ") AND (" ++ restriction ++ ")"

theorem joinConditions_pair (first second : String) :
    joinConditions .and [first, second] = "(" ++ first ++ ") AND (" ++ second ++ ")" := by
  rw [← String.toList_inj, toList_joinConditions]
  simp [enclosed, Connective.separator]

theorem joinConditions_restriction {condition restriction : String} (some : restriction ≠ "") :
    joinConditions .and ([condition, restriction].filter (! ·.isEmpty)) = withRestriction restriction condition := by
  unfold withRestriction
  split
  · next blank => simp [blank, some, joinConditions]
  · next present => simp [present, some, joinConditions_pair]

theorem restriction_ne_empty (restricts : scope.restriction? = some restriction) : restriction ≠ "" := by
  cases scope <;> cases restricts <;> decide

-- AND binds closer than OR, so it is the brackets that keep the alternatives of the condition together.
theorem withRestriction_value {condition : String} (present : condition ≠ "")
    (restricts : scope.restriction? = some restriction) (balanced : Balanced condition.toList)
    (atom : String → Truth) :
    conditionValue atom (withRestriction restriction condition).toList =
      (conditionValue atom condition.toList).and (conditionValue atom restriction.toList) := by
  have each : ∀ part ∈ [condition, restriction], Balanced part.toList := by
    simpa using ⟨balanced, restriction_balanced restricts⟩
  rw [withRestriction, if_neg present, ← joinConditions_pair, joinConditions_value .and (by simp) each]
  exact congrArg (Truth.and _) (Truth.all_singleton _)

theorem restrict_eq (restricts : scope.restriction? = some restriction) (bound : fragment.ConditionBound)
    (made : fragment.OfFields username) :
    restrict scope fragment =
      .ok { fragment with condition := withRestriction restriction fragment.condition } := by
  obtain ⟨result, restricted, -⟩ := (restrict_returns scope made).exists_ok
  rw [restricted]
  rw [restrict, restricts] at restricted
  obtain ⟨limit, built, joined⟩ := bind_eq_ok.mp restricted
  obtain ⟨-, rfl⟩ := condition_ok built
  have noEntries {α : Type} : (AliasMap.empty : AliasMap α).entries = [] := rfl
  have unbound : Fragment.boundParams
      { Fragment.empty with condition := restriction, conditionParams := [] } = [] := ite_self []
  rw [Fragment.combine_ok (mapError_eq_ok.mp joined)]
  apply congrArg Except.ok
  apply Fragment.eq_of_parts
  case joins => simp [Fragment.empty, noEntries, AliasMap.empty_insertAll_entries]
  case selects => simp [Fragment.empty, noEntries, AliasMap.empty_insertAll_entries]
  case order => simp [Fragment.empty]
  case condition => exact joinConditions_restriction (restriction_ne_empty restricts)
  case params => simp [List.flatMap_cons, unbound, bound.boundParams_eq]

theorem compile_scope_eq (restricts : scope.restriction? = some restriction) (query order username : String) :
    compile query order username scope =
      (compile query order username .all).map fun plain =>
        { plain with condition := withRestriction restriction plain.condition } := by
  rw [compile_eq, compile_eq]
  cases found : compileQuery query username with
  | error error => rfl
  | ok matched =>
    have bound : matched.ConditionBound := (conditionBound_invariant username).compileQuery found
    have made : matched.OfFields username := ((compileQuery_reports query).of_ok found).2
    change restrict scope matched >>= _ = Except.map _ (compileOrder order username >>= _)
    rw [restrict_eq restricts bound made]
    cases compileOrder order username with
    | error error => rfl
    | ok sorted =>
      change Except.mapError _ (Fragment.mergeOrder { matched with condition := _ } sorted) =
        Except.map _ (Except.mapError _ (matched.mergeOrder sorted))
      rw [Fragment.mergeOrder_withCondition]
      cases merged : matched.mergeOrder sorted with
      | error error => rfl
      | ok plain =>
        have same : plain.condition = matched.condition := by rw [Fragment.mergeOrder_ok merged]
        rw [← same]
        rfl

theorem scope_only_restricts (restricts : scope.restriction? = some restriction) (query order username : String) :
    (∀ error, compile query order username scope = .error error ↔
      compile query order username .all = .error error) ∧
    ∀ plain, compile query order username .all = .ok plain →
      ∃ limited, compile query order username scope = .ok limited ∧
        limited.joins = plain.joins ∧ limited.selects = plain.selects ∧ limited.order = plain.order ∧
        limited.conditionParams = plain.conditionParams ∧ limited.params = plain.params ∧
        (plain.condition = "" → limited.condition = restriction) ∧
        (plain.condition ≠ "" →
          limited.condition = "(" ++ plain.condition ++ ") AND (" ++ restriction ++ ")" ∧
          ∀ atom, limited.value atom = (plain.value atom).and (conditionValue atom restriction.toList)) := by
  rw [compile_scope_eq restricts]
  refine ⟨?fails, ?succeeds⟩
  case fails =>
    intro error
    cases compile query order username .all with
    | error other => exact Iff.rfl
    | ok plain => constructor <;> intro failed <;> cases failed
  case succeeds =>
    intro plain compiled
    rw [compiled]
    refine ⟨_, rfl, rfl, rfl, rfl, rfl, rfl, ?_, ?_⟩
    · intro blank
      exact if_pos blank
    · intro present
      exact ⟨if_neg present, withRestriction_value present restricts (Compiled.search compiled).balanced⟩

theorem scope_only_restricts_songs :
    (∃ limited, compile "year<2000" "" "ann" .songs = .ok limited ∧ limited.conditionParams = ["2000"] ∧
      limited.condition =
        "(media_file.year IS NULL OR media_file.year < ?) AND (media_file.type = 'MUSIC')") ∧
    ∃ limited, compile "" "-title" "ann" .songs = .ok limited ∧
      limited.order = [⟨"media_file.title", .descending⟩] ∧
      limited.condition = "media_file.type = 'MUSIC'" := by
  have songs : Scope.songs.restriction? = some "media_file.type = 'MUSIC'" := rfl
  constructor
  · have bare : Query.IsBareValue .less "2000".toList :=
      ⟨by decide, Query.forall_chars (by decide), by decide, by decide, by simp⟩
    have canonical : Predicate.Canonical (.compare "year" .less "2000") := ⟨isFieldName_name .year, .inr bare⟩
    have compiled := compile_predicate canonical (show compilePredicate "ann" _ = .ok _ from rfl)
    obtain ⟨limited, found, -, -, -, bound, -, -, joined⟩ :=
      (scope_only_restricts songs "year<2000" "" "ann").2 _ compiled
    exact ⟨limited, found, bound, (joined (by decide)).1⟩
  · have compiled : compile "" "-title" "ann" .all =
        .ok { Fragment.empty with order := [⟨"media_file.title", .descending⟩] } := by decide +kernel
    obtain ⟨limited, found, -, -, sorted, -, -, alone, -⟩ :=
      (scope_only_restricts songs "" "-title" "ann").2 _ compiled
    exact ⟨limited, found, sorted, alone rfl⟩

end MediaSearch.Sql
