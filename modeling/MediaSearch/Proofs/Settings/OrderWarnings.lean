import MediaSearch.Proofs.Query.WrittenOrders
import MediaSearch.Proofs.Sql.Failures
import MediaSearch.Settings.Warning

set_option autoImplicit false

namespace MediaSearch

namespace Text

def IsLower (text : String) : Prop := text.toList.map asciiLower = text.toList

end Text

namespace Sql.Field

theorem name_isLower (field : Field) : Text.IsLower field.name := by
  cases field <;> rfl

theorem ofName?_eq_none {name : String} (lower : Text.IsLower name) :
    ofName? name = none ↔ name ∉ all.map Field.name := by
  have same (field : Field) :
      Text.sameIgnoringCase field.name.toList name.toList = true ↔ field.name = name := by
    rw [Text.sameIgnoringCase, beq_iff_eq, name_isLower field, lower, String.toList_inj]
  simp [ofName?, same]

end Sql.Field

open Query (OrderKey parseOrder)
open Sql (CompileError Field Scope compile compileOrder)

namespace Warning

def concernsOrder : Warning → Bool
  | .invalidOrder _ _ => true
  | .unknownOrderField _ => true
  | _ => false

def unknownField? : Warning → Option String
  | .unknownOrderField name => some name
  | _ => none

theorem ofOrder_concernsOrder (order : String) :
    ∀ warning ∈ ofOrder order, warning.concernsOrder = true := by
  intro warning given
  unfold ofOrder at given
  split at given
  · obtain ⟨key, _, rfl⟩ := List.mem_map.mp given
    rfl
  · obtain rfl := List.mem_singleton.mp given
    rfl
  · simp at given

theorem ofBlank_concernsOrder {value : String} {warning : Warning}
    (other : warning.concernsOrder = false) :
    ∀ given ∈ ofBlank value warning, ¬given.concernsOrder = true := by
  unfold ofBlank
  split <;> simp [other]

end Warning

section Settings

variable (settings : Settings)

theorem Settings.orderWarnings_eq :
    settings.warnings.filter Warning.concernsOrder = Warning.ofOrder settings.compile.order := by
  have scope : (Warning.ofScope settings.compile.scope).filter Warning.concernsOrder = [] := by
    unfold Warning.ofScope
    split <;> rfl
  have order := List.filter_eq_self.mpr (Warning.ofOrder_concernsOrder settings.compile.order)
  simp only [Settings.warnings, List.filter_append, scope, order, List.nil_append]
  repeat rw [List.filter_eq_nil_iff.mpr (Warning.ofBlank_concernsOrder rfl), List.append_nil]

theorem Settings.mem_warnings {warning : Warning} (concerns : warning.concernsOrder = true) :
    warning ∈ settings.warnings ↔ warning ∈ Warning.ofOrder settings.compile.order := by
  rw [← settings.orderWarnings_eq, List.mem_filter]
  simp [concerns]

theorem Settings.unknownFields_eq :
    settings.warnings.filterMap Warning.unknownField? =
      (Warning.ofOrder settings.compile.order).filterMap Warning.unknownField? := by
  rw [← settings.orderWarnings_eq, List.filterMap_filter]
  congr 1
  funext warning
  cases warning <;> rfl

end Settings

def unknownNames (keys : List OrderKey) : List String :=
  (keys.map OrderKey.field).filter fun name => name ∉ Field.all.map Field.name

section Lists

variable {order : String} {keys : List OrderKey} {unread : Query.ParseError}

theorem ofName?_isNone_of_parseOrder (read : parseOrder order = .ok keys) :
    ∀ key ∈ keys, (Field.ofName? key.field).isNone = decide (key.field ∉ Field.all.map Field.name) := by
  intro key listed
  have lower : Text.IsLower key.field := (Query.parseOrder_named read key listed).map_asciiLower
  rw [Bool.eq_iff_iff, Option.isNone_iff_eq_none, decide_eq_true_iff, Field.ofName?_eq_none lower]

theorem unknownNames_eq (read : parseOrder order = .ok keys) :
    unknownNames keys = (keys.filter fun key => (Field.ofName? key.field).isNone).map OrderKey.field := by
  rw [unknownNames, List.filter_map, List.filter_congr (ofName?_isNone_of_parseOrder read)]
  rfl

theorem ofOrder_of_ok (read : parseOrder order = .ok keys) :
    Warning.ofOrder order = (unknownNames keys).map .unknownOrderField := by
  rw [Warning.ofOrder, read, unknownNames_eq read, List.map_map]
  rfl

theorem ofOrder_of_error (failed : parseOrder order = .error unread) :
    Warning.ofOrder order = [.invalidOrder order (CompileError.parse unread).message] := by
  obtain ⟨fault, before, -, -, rfl⟩ := (Query.parseOrder_ends order).of_error failed
  rw [Warning.ofOrder, failed]
  rfl

theorem orderFailure?_of_ok (read : parseOrder order = .ok keys) :
    Sql.orderFailure? order = (unknownNames keys).head?.map .unknownField := by
  have keysFailure : Sql.orderFailure? order = Sql.keysFailure? keys := by
    rw [Sql.orderFailure?, read]
    rfl
  rw [keysFailure, Sql.keysFailure?, unknownNames_eq read, List.head?_map, List.head?_filter,
    Option.map_map, List.find?_eq_findSome?_guard, List.map_findSome?]
  congr 1
  funext key
  by_cases unknown : (Field.ofName? key.field).isNone <;> simp [Sql.fieldFailure?, Option.guard, unknown]

theorem orderFailure?_of_error (failed : parseOrder order = .error unread) :
    Sql.orderFailure? order = some (.parse unread) := by
  rw [Sql.orderFailure?, failed]
  rfl

end Lists

theorem ofOrder_eq_nil_iff (order : String) :
    Warning.ofOrder order = [] ↔ Sql.orderFailure? order = none := by
  cases read : parseOrder order with
  | ok keys => rw [ofOrder_of_ok read, orderFailure?_of_ok read]; simp
  | error unread => rw [ofOrder_of_error read, orderFailure?_of_error read]; simp

theorem Settings.noOrderWarning_iff (settings : Settings) :
    (∀ warning ∈ settings.warnings, warning.concernsOrder = false) ↔
      Sql.orderFailure? settings.compile.order = none := by
  rw [← ofOrder_eq_nil_iff, ← settings.orderWarnings_eq]
  simp

theorem compile_ok_iff (query order username : String) (scope : Scope) :
    (∃ fragment, compile query order username scope = .ok fragment) ↔
      Sql.queryFailure? query = none ∧ Sql.orderFailure? order = none := by
  rw [← failure?_eq_none, (Sql.compile_reports query order scope).failure?_eq, Option.or_eq_none_iff]

theorem order_warnings_iff_compileOrder_fails (settings : Settings) (username : String) :
    ((∃ warning ∈ settings.warnings, warning.concernsOrder = true) ↔
      ∃ error, compileOrder settings.compile.order username = .error error) ∧
    (∀ value reason, .invalidOrder value reason ∈ settings.warnings ↔
      value = settings.compile.order ∧
        ∃ unread, compileOrder settings.compile.order username = .error (.parse unread) ∧
          reason = (CompileError.parse unread).message) ∧
    ((∀ value reason, .invalidOrder value reason ∉ settings.warnings) →
      ∃ keys, parseOrder settings.compile.order = .ok keys ∧
        settings.warnings.filterMap Warning.unknownField? = unknownNames keys ∧
        failure? (compileOrder settings.compile.order username) =
          (unknownNames keys).head?.map .unknownField) ∧
    ∀ query scope,
      (∃ fragment, compile query settings.compile.order username scope = .ok fragment) ↔
        (∃ fragment, compile query "" username scope = .ok fragment) ∧
          ∀ warning ∈ settings.warnings, warning.concernsOrder = false := by
  have failure : failure? (compileOrder settings.compile.order username) =
      Sql.orderFailure? settings.compile.order := (Sql.compileOrder_reports _).failure?_eq
  refine ⟨?fails, ?invalid, ?unknown, ?search⟩
  case fails =>
    have none := settings.noOrderWarning_iff
    rw [← failure] at none
    simpa [Option.ne_none_iff_exists', failure?_eq_some] using not_congr none
  case invalid =>
    intro value reason
    rw [settings.mem_warnings rfl]
    cases read : parseOrder settings.compile.order with
    | ok keys =>
      rw [orderFailure?_of_ok read] at failure
      simp [ofOrder_of_ok read, ← failure?_eq_some, failure]
    | error unread =>
      rw [orderFailure?_of_error read] at failure
      simp [ofOrder_of_error read, ← failure?_eq_some, failure]
  case unknown =>
    intro valid
    cases read : parseOrder settings.compile.order with
    | ok keys =>
      refine ⟨keys, rfl, ?_, failure.trans (orderFailure?_of_ok read)⟩
      rw [settings.unknownFields_eq, ofOrder_of_ok read, List.filterMap_map]
      exact List.filterMap_some
    | error unread =>
      have given : .invalidOrder settings.compile.order (CompileError.parse unread).message ∈
          settings.warnings := by
        rw [settings.mem_warnings rfl, ofOrder_of_error read]
        exact List.mem_singleton_self _
      exact absurd given (valid _ _)
  case search =>
    intro query scope
    have empty : Sql.orderFailure? "" = none := rfl
    rw [compile_ok_iff, compile_ok_iff, settings.noOrderWarning_iff, empty]
    simp

theorem order_warnings_iff_compileOrder_fails_colours :
    ∃ settings : Settings, settings.compile.order = "-Year, Colour,, mood, -colour" ∧
      (∀ value reason, .invalidOrder value reason ∉ settings.warnings) ∧
      settings.warnings.filterMap Warning.unknownField? = ["colour", "mood", "colour"] ∧
      failure? (compileOrder settings.compile.order "ann") = some (.unknownField "colour") := by
  let settings : Settings := { compile := { order := "-Year, Colour,, mood, -colour" } }
  have keys : parseOrder settings.compile.order = .ok [⟨"year", .descending⟩, ⟨"colour", .ascending⟩,
      ⟨"mood", .ascending⟩, ⟨"colour", .descending⟩] := by decide +kernel
  have warnings : settings.warnings = [.unknownOrderField "colour", .unknownOrderField "mood",
      .unknownOrderField "colour"] := by decide +kernel
  have valid : ∀ value reason, .invalidOrder value reason ∉ settings.warnings := by simp [warnings]
  obtain ⟨-, -, unknown, -⟩ := order_warnings_iff_compileOrder_fails settings "ann"
  obtain ⟨read, same, listed, failure⟩ := unknown valid
  obtain rfl := Except.ok.inj (keys.symm.trans same)
  exact ⟨settings, rfl, valid, listed.trans (by decide +kernel), failure.trans (by decide +kernel)⟩

end MediaSearch
