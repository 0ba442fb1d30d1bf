import MediaSearch.Proofs.Sql.WrittenValues
import Mathlib

set_option autoImplicit false

/-!
Which texts a search for a word finds. The word is bound as a pattern of LIKE that has a wildcard in front of it
and one behind it, so the texts that hold the word match. These are all, unless the word has wildcards of its own.
-/

namespace MediaSearch

namespace Sql

-- A text that matches a pattern, where no character escapes another: `%` stands for any text, `_` for any one
-- character, and every other character for itself.
inductive Like : List Char → List Char → Prop
  | done : Like [] []
  | any (skipped : List Char) {pattern text : List Char} (rest : Like pattern text) :
      Like ('%' :: pattern) (skipped ++ text)
  | one (c : Char) {pattern text : List Char} (rest : Like pattern text) : Like ('_' :: pattern) (c :: text)
  | same {c : Char} {pattern text : List Char} (noPercent : c ≠ '%') (noUnderscore : c ≠ '_')
      (rest : Like pattern text) : Like (c :: pattern) (c :: text)

def HasWildcard (pattern : List Char) : Prop := '%' ∈ pattern ∨ '_' ∈ pattern

namespace Like

variable {pattern first second text : List Char}

theorem append {left right : List Char} (before : Like first left) (behind : Like second right) :
    Like (first ++ second) (left ++ right) := by
  induction before with
  | done => exact behind
  | any skipped _ ih =>
    rw [List.append_assoc]
    exact .any skipped ih
  | one c _ ih => exact .one c ih
  | same noPercent noUnderscore _ ih => exact .same noPercent noUnderscore ih

theorem split (whole : Like (first ++ second) text) :
    ∃ left right, text = left ++ right ∧ Like first left ∧ Like second right := by
  induction first generalizing text with
  | nil => exact ⟨[], text, rfl, .done, whole⟩
  | cons c first ih =>
    cases whole with
    | any skipped rest =>
      obtain ⟨left, right, rfl, before, behind⟩ := ih rest
      exact ⟨skipped ++ left, right, (List.append_assoc ..).symm, .any skipped before, behind⟩
    | one d rest =>
      obtain ⟨left, right, rfl, before, behind⟩ := ih rest
      exact ⟨d :: left, right, rfl, .one d before, behind⟩
    | same noPercent noUnderscore rest =>
      obtain ⟨left, right, rfl, before, behind⟩ := ih rest
      exact ⟨c :: left, right, rfl, .same noPercent noUnderscore before, behind⟩

theorem percent (text : List Char) : Like ['%'] text := by
  have all := Like.any text .done
  rwa [List.append_nil] at all

theorem within_iff : Like ("%".toList ++ pattern ++ "%".toList) text ↔ ∃ part, part <:+: text ∧ Like pattern part := by
  constructor
  · intro whole
    obtain ⟨start, finish, rfl, front, -⟩ := whole.split
    obtain ⟨before, part, rfl, -, inside⟩ := front.split
    exact ⟨part, List.infix_append before part finish, inside⟩
  · rintro ⟨part, ⟨before, after, rfl⟩, inside⟩
    exact ((percent before).append inside).append (percent after)

theorem self (pattern : List Char) : Like pattern pattern := by
  induction pattern with
  | nil => exact .done
  | cons c pattern ih =>
    by_cases percent : c = '%'
    · rw [percent]
      exact .any ['%'] ih
    · by_cases underscore : c = '_'
      · rw [underscore]
        exact .one '_' ih
      · exact .same percent underscore ih

theorem eq_of_plain (plain : ¬ HasWildcard pattern) (matched : Like pattern text) : text = pattern := by
  induction matched with
  | done => rfl
  | any => exact absurd (.inl List.mem_cons_self) plain
  | one => exact absurd (.inr List.mem_cons_self) plain
  | @same c pattern _ _ _ _ ih =>
    have later : ¬ HasWildcard pattern := fun wild =>
      plain (wild.imp (List.mem_cons_of_mem c) (List.mem_cons_of_mem c))
    rw [ih later]

theorem exists_plain (pattern : List Char) : ∃ text, Like pattern text ∧ ¬ HasWildcard text := by
  induction pattern with
  | nil => exact ⟨[], .done, by simp [HasWildcard]⟩
  | cons c pattern ih =>
    obtain ⟨text, rest, plain⟩ := ih
    by_cases percent : c = '%'
    · rw [percent]
      exact ⟨text, .any [] rest, plain⟩
    · by_cases underscore : c = '_'
      · rw [underscore]
        exact ⟨' ' :: text, .one ' ' rest, by simpa [HasWildcard] using plain⟩
      · refine ⟨c :: text, .same percent underscore rest, ?_⟩
        simpa [HasWildcard, Ne.symm percent, Ne.symm underscore] using plain

theorem within_of_infix (within : pattern <:+: text) : Like ("%".toList ++ pattern ++ "%".toList) text :=
  within_iff.mpr ⟨pattern, within, self pattern⟩

theorem within_iff_infix :
    (∀ text, Like ("%".toList ++ pattern ++ "%".toList) text ↔ pattern <:+: text) ↔ ¬ HasWildcard pattern := by
  constructor
  · intro contains wild
    -- a text without wildcards matches, but does not have the pattern's wildcards in it
    obtain ⟨text, matched, plain⟩ := exists_plain pattern
    have within : pattern <:+: text := (contains text).mp (within_iff.mpr ⟨text, List.infix_rfl, matched⟩)
    exact plain (wild.imp (within.subset ·) (within.subset ·))
  · intro plain text
    refine ⟨fun matched => ?_, within_of_infix⟩
    obtain ⟨part, within, inside⟩ := within_iff.mp matched
    rwa [inside.eq_of_plain plain] at within

end Like

end Sql

namespace Text

theorem image_le_of_lower? {code image : Nat} (found : lowercaseRuns.findSome? (·.lower? code) = some image) :
    0x61 ≤ image := by
  have images : ∀ run ∈ lowercaseRuns, 0x61 ≤ run.image := by decide +kernel
  obtain ⟨run, listed, lowered⟩ := List.exists_of_findSome?_eq_some found
  have least := images run listed
  unfold CaseRun.lower? at lowered
  split at lowered
  · have same := Option.some.inj lowered
    omega
  · cases lowered

-- Lower case letters come behind all wildcards, so no character becomes a wildcard.
theorem mem_lowerChar_iff {c wildcard : Char} (isWildcard : wildcard ∈ ['%', '_']) :
    wildcard ∈ lowerChar c ↔ wildcard = c := by
  have kept : lowerChar wildcard = [wildcard] := by
    simp only [List.mem_cons, List.not_mem_nil, or_false] at isWildcard
    rcases isWildcard with rfl | rfl <;> rfl
  have code : wildcard.toNat = 0x25 ∨ wildcard.toNat = 0x5F := by
    simp only [List.mem_cons, List.not_mem_nil, or_false] at isWildcard
    rcases isWildcard with rfl | rfl <;> decide
  constructor
  · intro member
    unfold lowerChar at member
    split at member
    · simp only [List.mem_cons, List.not_mem_nil, or_false] at member
      rcases member with rfl | rfl <;> exact absurd code (by decide)
    · split at member
      · next image found =>
        have letter := image_le_of_lower? found
        have same := congrArg Char.toNat (List.mem_singleton.mp member)
        -- a number that is no character's code stands for the first character
        rw [Char.toNat_ofNat] at same
        split at same <;> omega
      · exact List.mem_singleton.mp member
  · rintro rfl
    rw [kept]
    exact List.mem_singleton_self _

theorem mem_lowercaseAfter_iff {wildcard : Char} (isWildcard : wildcard ∈ ['%', '_']) (before text : List Char) :
    wildcard ∈ lowercaseAfter before text ↔ wildcard ∈ text := by
  induction text generalizing before with
  | nil => rfl
  | cons c text ih =>
    rw [lowercaseAfter, List.mem_append, ih, List.mem_cons]
    refine or_congr_left ?_
    split
    · next sigma =>
      subst sigma
      have noSigma : ∀ c ∈ ['σ', 'ς', 'Σ'], wildcard ≠ c := by
        rintro c member rfl
        simp only [List.mem_cons, List.not_mem_nil, or_false] at isWildcard member
        rcases isWildcard with rfl | rfl <;> revert member <;> decide
      rw [List.mem_singleton, lowerSigma]
      split
      · exact iff_of_false (noSigma 'ς' (by decide)) (noSigma 'Σ' (by decide))
      · exact iff_of_false (noSigma 'σ' (by decide)) (noSigma 'Σ' (by decide))
    · exact mem_lowerChar_iff isWildcard

end Text

namespace Sql

theorem hasWildcard_lowercase (text : String) :
    HasWildcard (Text.lowercase text).toList ↔ HasWildcard text.toList := by
  rw [HasWildcard, HasWildcard, Text.lowercase, String.toList_ofList, Text.mem_lowercaseAfter_iff (by decide),
    Text.mem_lowercaseAfter_iff (by decide)]

variable {field : Field} {column : Column} {name value : String}

theorem compare_contains (isText : field.valueType = .text) (found : field.column? = some column)
    (notNull : isNull value = false) :
    compare field .contains value =
      condition ("lower(" ++ column.qualified ++ ") LIKE ?") ["%" ++ Text.lowercase value ++ "%"] := by
  rw [compare, found, isText]
  simp only [compareText, notNull, Bool.false_eq_true, if_false]

theorem compilePredicate_contains (named : Field.ofName? name = some field) (isText : field.valueType = .text)
    (found : field.column? = some column) (notNull : isNull (stripQuotes value) = false) (username : String) :
    Returns (Fragment.Binds ("lower(" ++ column.qualified ++ ") LIKE ?")
        ["%" ++ Text.lowercase (stripQuotes value) ++ "%"])
      (compilePredicate username (.compare name .contains value)) := by
  have start : placeholderCount "lower(" = 0 := by decide
  have mark : placeholderCount ") LIKE ?" = 1 := by decide
  have counted : placeholderCount ("lower(" ++ column.qualified ++ ") LIKE ?") =
      ["%" ++ Text.lowercase (stripQuotes value) ++ "%"].length := by
    simp [column_plain found, start, mark]
  have test := test_binds username field counted
  rw [← compare_contains isText found notNull] at test
  rw [compilePredicate, Query.Predicate.field, lookupField, named]
  exact test

theorem search_finds_words {field : Field} {name value : String} (named : Field.ofName? name = some field)
    (isText : field.valueType = .text) (notNull : isNull (stripQuotes value) = false) (username : String) :
    ∃ column pattern, field.column? = some column ∧
      Returns (Fragment.Binds ("lower(" ++ column.qualified ++ ") LIKE ?") [pattern])
        (compilePredicate username (.compare name .contains value)) ∧
      -- What is found has a part that matches the word, and the word matches itself.
      (∀ text, Like pattern.toList text ↔
        ∃ part, part <:+: text ∧ Like (Text.lowercase (stripQuotes value)).toList part) ∧
      (∀ text, (Text.lowercase (stripQuotes value)).toList <:+: text → Like pattern.toList text) ∧
      -- Nothing else is found exactly if the word has no wildcards.
      ((∀ text, Like pattern.toList text ↔ (Text.lowercase (stripQuotes value)).toList <:+: text) ↔
        '%' ∉ (stripQuotes value).toList ∧ '_' ∉ (stripQuotes value).toList) := by
  obtain ⟨column, found⟩ : ∃ column, field.column? = some column := exists_column (by simp [ValueType.isBound, isText])
  have pattern : ("%" ++ Text.lowercase (stripQuotes value) ++ "%").toList =
      "%".toList ++ (Text.lowercase (stripQuotes value)).toList ++ "%".toList := by
    rw [String.toList_append, String.toList_append]
  refine ⟨column, _, found, compilePredicate_contains named isText found notNull username, ?_⟩
  rw [pattern, Like.within_iff_infix, hasWildcard_lowercase, HasWildcard, not_or]
  exact ⟨fun text => Like.within_iff, fun text => Like.within_of_infix, .rfl⟩

theorem search_finds_words_queen :
    Field.ofName? "Title" = some .title ∧ Field.title.valueType = .text ∧ isNull (stripQuotes "\"Queen\"") = false ∧
      ∃ pattern, Returns (Fragment.Binds "lower(media_file.title) LIKE ?" [pattern])
          (compilePredicate "ann" (.compare "Title" .contains "\"Queen\"")) ∧
        ∀ text, Like pattern.toList text ↔ "queen".toList <:+: text := by
  have named : Field.ofName? "Title" = some .title := rfl
  have notNull : isNull (stripQuotes "\"Queen\"") = false := by decide
  obtain ⟨column, pattern, found, binds, -, -, exactly⟩ := search_finds_words named rfl notNull "ann"
  obtain rfl : ⟨"media_file", "title"⟩ = column := Option.some.inj found
  exact ⟨named, rfl, notNull, pattern, binds, exactly.mpr (by decide)⟩

theorem search_for_percent_finds_more :
    Field.ofName? "title" = some .title ∧ Field.title.valueType = .text ∧ isNull (stripQuotes "100%") = false ∧
      Returns (Fragment.Binds "lower(media_file.title) LIKE ?" ["%100%%"])
        (compilePredicate "ann" (.compare "title" .contains "100%")) ∧
      Like "%100%%".toList "1000".toList ∧ ¬ (Text.lowercase (stripQuotes "100%")).toList <:+: "1000".toList := by
  have named : Field.ofName? "title" = some .title := rfl
  have notNull : isNull (stripQuotes "100%") = false := by decide
  have digits : Like "100%".toList "1000".toList :=
    .same (by decide) (by decide) (.same (by decide) (by decide) (.same (by decide) (by decide) (.percent ['0'])))
  refine ⟨named, rfl, notNull, compilePredicate_contains named rfl rfl notNull "ann",
    Like.within_iff.mpr ⟨_, List.infix_rfl, digits⟩, fun within => ?_⟩
  have percent : '%' ∈ "1000".toList := within.subset (by decide)
  revert percent
  decide

end Sql

end MediaSearch
