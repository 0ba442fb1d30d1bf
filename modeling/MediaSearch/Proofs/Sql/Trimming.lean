import MediaSearch.Command.Compile
import MediaSearch.Proofs.Query.Padding
import MediaSearch.Proofs.Sql.Failures

set_option autoImplicit false

namespace MediaSearch

namespace Sql

open Query (Padded padded_trim)
open Text (trimmed)

-- A syntax error has the place at which it stands, and that may move. All else is the same.
def CompileError.Agrees : CompileError → CompileError → Prop
  | .parse first, .parse second => first.fault.message = second.fault.message
  | first, second => first = second

theorem CompileError.Agrees.refl (error : CompileError) : error.Agrees error := by
  cases error <;> rfl

theorem CompileError.agrees_of_sameFault {first second : Query.ParseError} (same : first.SameFault second) :
    (CompileError.parse first).Agrees (.parse second) :=
  congrArg Query.Fault.message same

theorem padded_trimmed (text : String) : Padded (trimmed text).toList text.toList := by
  rw [trimmed, String.toList_ofList]
  exact padded_trim text.toList

theorem compileQuery_trimmed (query username : String) :
    EndAlike CompileError.Agrees (compileQuery (trimmed query) username) (compileQuery query username) := by
  have parsed := (Query.parse_padded (padded_trimmed query)).mapError fun _ _ => CompileError.agrees_of_sameFault
  unfold compileQuery
  rw [Text.isBlankText, Text.isBlankText, (padded_trimmed query).all_isBlank]
  split
  · exact .ok Fragment.empty
  · exact parsed.bind fun expr => .refl CompileError.Agrees.refl (compileExpr username expr)

theorem compileOrder_trimmed (order username : String) :
    EndAlike CompileError.Agrees (compileOrder (trimmed order) username) (compileOrder order username) := by
  have parsed := (Query.parseOrder_padded (padded_trimmed order)).mapError fun _ _ =>
    CompileError.agrees_of_sameFault
  exact parsed.bind fun keys => .refl CompileError.Agrees.refl (compileOrderKeys username keys)

theorem compile_trimmed_alike (query order username : String) (scope : Scope) :
    EndAlike CompileError.Agrees (compile (trimmed query) (trimmed order) username scope)
      (compile query order username scope) := by
  rw [compile_eq, compile_eq]
  refine (compileQuery_trimmed query username).bind fun matched => ?_
  refine (EndAlike.refl CompileError.Agrees.refl (restrict scope matched)).bind fun restricted => ?_
  refine (compileOrder_trimmed order username).bind fun sorted => ?_
  exact .refl CompileError.Agrees.refl _

theorem compile_trimmed (query order username : String) (scope : Scope) :
    (∀ fragment, compile (trimmed query) (trimmed order) username scope = .ok fragment ↔
      compile query order username scope = .ok fragment) ∧
    (∀ error, compile (trimmed query) (trimmed order) username scope = .error error →
      ∃ error', compile query order username scope = .error error' ∧ error.Agrees error') :=
  ⟨(compile_trimmed_alike query order username scope).ok_iff,
    fun _ => (compile_trimmed_alike query order username scope).of_error⟩

theorem compile_trimmed_unclosed_quote :
    ∃ error error', compile "title:\"so what" "-year" "ann" .songs = .error (.parse error) ∧
      compile " title:\"so what " " -year " "ann" .songs = .error error' ∧
      (CompileError.parse error).Agrees error' := by
  have query : trimmed " title:\"so what " = "title:\"so what" := by decide
  have order : trimmed " -year " = "-year" := by decide
  have unclosed : Query.scanFrom 0 "title:\"so what".toList = .error ⟨.unclosedQuote, 6⟩ :=
    Query.scanFrom_refused rfl rfl
  have failed : compile "title:\"so what" "-year" "ann" .songs =
      .error (.parse (Query.Failure.toParseError "title:\"so what" ⟨.unclosedQuote, 6⟩)) := by
    rw [compile, compileQuery, parseQuery, Query.parse, Query.tokenize, unclosed]
    rfl
  have same := (compile_trimmed " title:\"so what " " -year " "ann" .songs).2 _
    (by rw [query, order]; exact failed)
  obtain ⟨error', failed', agrees⟩ := same
  exact ⟨_, error', failed, failed', agrees⟩

end Sql

namespace Command

theorem Search.compile_ofRequest (settings : Settings) (request : CompileRequest) :
    EndAlike Sql.CompileError.Agrees (ofRequest settings request).compile
      (Sql.compile request.query (request.order.getD settings.compile.order)
        (request.username.getD settings.compile.username) (request.scope.getD settings.scope)) :=
  Sql.compile_trimmed_alike _ _ _ _

end Command

end MediaSearch
