import MediaSearch.Proofs.Outcome
import MediaSearch.Proofs.Sql.Needs
import MediaSearch.Proofs.Sql.Placeholders

set_option autoImplicit false

namespace MediaSearch.Sql

open Query (Direction OrderKey)

def OneValue {α : Type} (allowed : String × α → Prop) : Prop :=
  ∀ ⦃first second⦄, allowed first → allowed second → first.1 = second.1 → first = second

theorem OneValue.of_get? {α : Type} {allowed : String × α → Prop} {map : AliasMap α} {name : String}
    {value existing : α} (oneValue : OneValue allowed) (before : ∀ entry ∈ map.entries, allowed entry)
    (added : allowed (name, value)) (found : map.get? name = some existing) : existing = value := by
  obtain ⟨left, right, split, -⟩ := List.lookup_eq_some_iff.mp found
  have present : (name, existing) ∈ map.entries := by simp [split]
  exact congrArg Prod.snd (oneValue (before _ present) added rfl)

namespace Fragment.MadeOf

variable {join : String × Join → Prop} {select : String × String → Prop} {item : OrderItem → Prop}
  {fragment other : Fragment}

theorem mergeJoin_returns {name : String} {value : Join} (oneJoin : OneValue join)
    (made : fragment.MadeOf join select item) (allowed : join (name, value)) :
    Returns (MadeOf join select item) (fragment.mergeJoin name value) := by
  unfold mergeJoin
  split
  · refine .ok ⟨fun entry present => ?_, made.selects, made.order⟩
    rcases mem_insertEntry present with rfl | old
    · exact allowed
    · exact made.joins entry old
  · next existing found =>
    rw [if_pos (oneJoin.of_get? made.joins allowed found)]
    exact .ok made

theorem mergeSelect_returns {name expr : String} (oneSelect : OneValue select)
    (made : fragment.MadeOf join select item) (allowed : select (name, expr)) :
    Returns (MadeOf join select item) (fragment.mergeSelect name expr) := by
  unfold mergeSelect
  split
  · refine .ok ⟨made.joins, fun entry present => ?_, made.order⟩
    rcases mem_insertEntry present with rfl | old
    · exact allowed
    · exact made.selects entry old
  · next existing found =>
    rw [if_pos (oneSelect.of_get? made.selects allowed found)]
    exact .ok made

theorem mergeJoins_returns {entries : List (String × Join)} (oneJoin : OneValue join)
    (made : fragment.MadeOf join select item) (allowed : ∀ entry ∈ entries, join entry) :
    Returns (MadeOf join select item) (fragment.mergeJoins entries) := by
  induction entries generalizing fragment with
  | nil => exact .ok made
  | cons entry rest ih =>
    obtain ⟨first, others⟩ := List.forall_mem_cons.mp allowed
    exact (made.mergeJoin_returns oneJoin first).bind fun _ joined => ih joined others

theorem mergeSelects_returns {entries : List (String × String)} (oneSelect : OneValue select)
    (made : fragment.MadeOf join select item) (allowed : ∀ entry ∈ entries, select entry) :
    Returns (MadeOf join select item) (fragment.mergeSelects entries) := by
  induction entries generalizing fragment with
  | nil => exact .ok made
  | cons entry rest ih =>
    obtain ⟨first, others⟩ := List.forall_mem_cons.mp allowed
    exact (made.mergeSelect_returns oneSelect first).bind fun _ selected => ih selected others

theorem mergeOrder_returns (oneJoin : OneValue join) (oneSelect : OneValue select)
    (made : fragment.MadeOf join select item) (madeOther : other.MadeOf join select item) :
    Returns (MadeOf join select item) (fragment.mergeOrder other) := by
  refine (made.mergeJoins_returns oneJoin madeOther.joins).bind fun _ joined => ?_
  refine (joined.mergeSelects_returns oneSelect madeOther.selects).bind fun _ selected => ?_
  exact .ok ⟨selected.joins, selected.selects, List.forall_mem_append.mpr ⟨selected.order, madeOther.order⟩⟩

theorem absorb_returns (oneJoin : OneValue join) (oneSelect : OneValue select)
    (made : fragment.MadeOf join select item) (madeOther : other.MadeOf join select item) :
    Returns (MadeOf join select item) (fragment.absorb other) :=
  (made.mergeOrder_returns oneJoin oneSelect madeOther).bind fun _ merged =>
    .ok (merged.withCondition _ _)

theorem absorbAll_returns {parts : List Fragment} (oneJoin : OneValue join)
    (oneSelect : OneValue select) (made : fragment.MadeOf join select item)
    (each : ∀ part ∈ parts, part.MadeOf join select item) :
    Returns (MadeOf join select item) (fragment.absorbAll parts) := by
  induction parts generalizing fragment with
  | nil => exact .ok made
  | cons part parts ih =>
    obtain ⟨first, others⟩ := List.forall_mem_cons.mp each
    exact (made.absorb_returns oneJoin oneSelect first).bind fun _ absorbed =>
      ih absorbed others

theorem combine_returns {connective : Connective} {parts : List Fragment} (oneJoin : OneValue join)
    (oneSelect : OneValue select) (each : ∀ part ∈ parts, part.MadeOf join select item) :
    Returns (MadeOf join select item) (Fragment.combine connective parts) :=
  (empty.absorbAll_returns oneJoin oneSelect each).bind fun _ absorbed =>
    .ok (absorbed.withCondition _ _)

end Fragment.MadeOf

section Fields

variable {username : String} {fragment other : Fragment}

theorem oneValue_fieldJoins (username : String) :
    OneValue fun entry => ∃ field, entry ∈ fieldJoins username field := by
  rintro first second ⟨left, neededFirst⟩ ⟨right, neededSecond⟩ same
  exact fieldJoins_determined username neededFirst neededSecond same

theorem oneValue_fieldSelects : OneValue fun entry => ∃ field, entry ∈ fieldSelects field := by
  rintro first second ⟨left, neededFirst⟩ ⟨right, neededSecond⟩ same
  exact fieldSelects_determined neededFirst neededSecond same

theorem addJoin_returns {field : Field} {name sql : String} {param : Option String}
    (made : fragment.OfFields username) (needed : (name, ⟨sql, param⟩) ∈ fieldJoins username field) :
    Returns (Fragment.OfFields username) (fragment.addJoin name sql param) := by
  rw [Fragment.addJoin, if_pos (fieldJoins_bound needed)]
  exact made.mergeJoin_returns (oneValue_fieldJoins username) ⟨field, needed⟩

theorem joinAlbumRating_returns (made : fragment.OfFields username) :
    Returns (Fragment.OfFields username) (joinAlbumRating username fragment) := by
  have album : (albumAlias, ⟨albumJoin, none⟩) ∈ fieldJoins username .albumRating := by
    simp [fieldJoins, ratingJoins]
  have rating : (ratingAlias, ⟨ratingJoin, some username⟩) ∈ fieldJoins username .albumRating := by
    simp [fieldJoins, ratingJoins]
  exact (addJoin_returns made album).bind fun _ joined => addJoin_returns joined rating

theorem joinStarred_returns (made : fragment.OfFields username) :
    Returns (Fragment.OfFields username) (joinStarred username fragment) := by
  have starred : (starredAlias, ⟨starredJoin, some username⟩) ∈ fieldJoins username .starred := by
    simp [fieldJoins, starredJoins]
  exact addJoin_returns made starred

theorem requireField_returns (field : Field) (made : fragment.OfFields username) :
    Returns (Fragment.OfFields username) (requireField username field fragment) := by
  cases field
  case albumRating => exact joinAlbumRating_returns made
  case starred => exact joinStarred_returns made
  case ranking =>
    refine (joinAlbumRating_returns made).bind fun _ rated => ?_
    refine (joinStarred_returns rated).bind fun _ starred => ?_
    exact starred.mergeSelects_returns oneValue_fieldSelects fun _ needed => ⟨.ranking, needed⟩
  all_goals exact .ok made

theorem combine_returns (connective : Connective) {parts : List Fragment}
    (each : ∀ part ∈ parts, part.OfFields username) :
    Returns (Fragment.OfFields username) (combine connective parts) :=
  Returns.mapError
    (Fragment.MadeOf.combine_returns (oneValue_fieldJoins username) oneValue_fieldSelects each)

theorem condition_returns {sql : String} {params : List String}
    (counted : placeholderCount sql = params.length) :
    Returns (fun test => ∀ username, test.OfFields username) (condition sql params) := by
  rw [condition, Fragment.ofCondition, if_pos counted]
  exact .ok fun _ => Fragment.MadeOf.empty.withCondition _ _

theorem restrict_returns (scope : Scope) (made : fragment.OfFields username) :
    Returns (Fragment.OfFields username) (restrict scope fragment) := by
  unfold restrict
  split
  · exact .ok made
  · next sql found =>
    have plain : placeholderCount sql = ([] : List String).length := by
      cases scope <;> cases found <;> decide
    refine (condition_returns plain).bind fun limit ofFields => ?_
    exact combine_returns .and (by simpa using ⟨made, ofFields username⟩)

theorem mergeOrder_returns (made : fragment.OfFields username) (madeOther : other.OfFields username) :
    Returns (Fragment.OfFields username) (fragment.mergeOrder other) :=
  made.mergeOrder_returns (oneValue_fieldJoins username) oneValue_fieldSelects madeOther

end Fields

end MediaSearch.Sql
