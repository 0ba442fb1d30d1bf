import MediaSearch.Query.Parser
import MediaSearch.Sql.CompileError
import MediaSearch.Sql.Scope
import MediaSearch.Text.Lowercase

set_option autoImplicit false

namespace MediaSearch.Sql

open Query (Expr Operator OrderKey Predicate)

def albumAlias : String := "media_album"

/-- The album of a track: the row of its folder, or one with the same album and artist. -/
def albumJoin : String :=
  "left outer join media_file media_album on media_album.type = 'ALBUM' and (media_album.path = media_file.parent_path or (media_album.album = media_file.album and media_album.artist = media_file.artist))"

def ratingAlias : String := "user_rating"

def ratingJoin : String :=
  "left outer join user_rating on user_rating.path = media_album.path and user_rating.username = ?"

def starredAlias : String := "starred_media_file"

def starredJoin : String :=
  "left outer join starred_media_file on media_file.id = starred_media_file.media_file_id and starred_media_file.username = ?"

/-- The rank of a track: it grows with the rating and with the plays, and shrinks with the days since
the track was starred and since it was added. -/
def rankingOrder : String :=
  "POWER(_RANKING_R, 2) * POWER(_RANKING_PC + 0.5 * _RANKING_APC, 1) * POWER(_RANKING_DS, -1) * POWER(_RANKING_DC, -1) * POWER(_RANKING_DL, 0)"

def daysSince (column : String) : String :=
  let days := "DATEDIFF(DAY, " ++ column ++ ", NOW())"
  "(CASE WHEN " ++ days ++ " <= 0 THEN 1 ELSE " ++ days ++ " END)"

/-- The columns that the rank is computed from. An album without a rating counts as rated 2. -/
def rankingSelects : List (String × String) :=
  [("_RANKING_DS", daysSince "starred_media_file.created"),
   ("_RANKING_DC", daysSince "media_file.created"),
   ("_RANKING_DL", daysSince "media_file.last_played"),
   ("_RANKING_PC", "media_file.play_count"),
   ("_RANKING_APC", "media_album.play_count"),
   ("_RANKING_R", "IFNULL(user_rating.rating, 2)")]

def joinAlbumRating (username : String) (fragment : Fragment) : Except FragmentError Fragment := do
  (← fragment.addJoin albumAlias albumJoin none).addJoin ratingAlias ratingJoin (some username)

def joinStarred (username : String) (fragment : Fragment) : Except FragmentError Fragment :=
  fragment.addJoin starredAlias starredJoin (some username)

def requireField (username : String) (field : Field) (fragment : Fragment) :
    Except FragmentError Fragment :=
  match field with
  | .albumRating => joinAlbumRating username fragment
  | .starred => joinStarred username fragment
  | .ranking => do
    let rated ← joinAlbumRating username fragment
    (← joinStarred username rated).mergeSelects rankingSelects
  | _ => .ok fragment

def stripQuotes (value : String) : String :=
  match value.toList with
  | '"' :: rest => if rest.getLast? = some '"' then String.ofList rest.dropLast else value
  | _ => value

def isNull (value : String) : Bool := Text.sameIgnoringCase value.toList "null".toList

def yesWords : List String := ["true", "t", "1", "yes", "y"]

def noWords : List String := ["false", "f", "0", "no", "n"]

def condition (sql : String) (params : List String) : Except CompileError Fragment :=
  (Fragment.ofCondition sql params).mapError .fragment

def bind (column sqlOperator value : String) : Except CompileError Fragment :=
  condition (column ++ " " ++ sqlOperator ++ " ?") [value]

/-- The column is below the value, or empty. -/
def bindBelow (column sqlOperator value : String) : Except CompileError Fragment :=
  condition (column ++ " IS NULL OR " ++ column ++ " " ++ sqlOperator ++ " ?") [value]

def compareText (field : Field) (column value : String) : Operator → Except CompileError Fragment
  | .exactly => bind column "=" value
  | .contains =>
    if isNull value then condition (column ++ " IS NULL") []
    else condition ("lower(" ++ column ++ ") LIKE ?") ["%" ++ Text.lowercase value ++ "%"]
  | .regexp => condition ("regexp_matches(" ++ column ++ ", ?)") [value]
  | op => .error (.unsupportedOperator field op.symbol)

def compareExactText (field : Field) (column value : String) :
    Operator → Except CompileError Fragment
  | .exactly => bind column "=" value
  | .contains =>
    if isNull value then condition (column ++ " IS NULL") [] else bind column "=" value
  | op => .error (.unsupportedOperator field op.symbol)

def compareOrdered (field : Field) (column value : String) :
    Operator → Except CompileError Fragment
  | .exactly => bind column "=" value
  | .contains =>
    if isNull value then condition (column ++ " IS NULL") [] else bind column "=" value
  | .less => bindBelow column "<" value
  | .atMost => bindBelow column "<=" value
  | .greater => bind column ">" value
  | .atLeast => bind column ">=" value
  | .regexp => .error (.unsupportedOperator field Operator.regexp.symbol)

/-- Whether the joined row that a flag stands for is there. -/
def compareFlag (field : Field) (column value : String) : Except CompileError Fragment :=
  let word := Text.asciiLowercase value
  if word ∈ yesWords then condition (column ++ " IS NOT NULL") []
  else if isNull word || word ∈ noWords then condition (column ++ " IS NULL") []
  else .error (.invalidLiteral field value)

def compare (field : Field) (op : Operator) (value : String) : Except CompileError Fragment :=
  match field.column? with
  | none => .error (.unsupportedOperator field op.symbol)
  | some column =>
    match field.valueType with
    | .text => compareText field column.qualified value op
    | .exactText => compareExactText field column.qualified value op
    | .integer => compareOrdered field column.qualified value op
    | .date => compareOrdered field column.qualified value op
    | .flag =>
      match op with
      | .exactly => compareFlag field column.qualified value
      | .contains => compareFlag field column.qualified value
      | op => .error (.unsupportedOperator field op.symbol)
    | .computed => .error (.unsupportedOperator field op.symbol)

def between (field : Field) (low high : String) : Except CompileError Fragment :=
  match field.column? with
  | none => .error (.unsupportedOperator field "between")
  | some column =>
    if field.valueType.isOrdered then
      let name := column.qualified
      condition (name ++ " IS NOT NULL AND " ++ name ++ " >= ? AND " ++ name ++ " <= ?") [low, high]
    else .error (.unsupportedOperator field "between")

def lookupField (name : String) : Except CompileError Field :=
  match Field.ofName? name with
  | some field => .ok field
  | none => .error (.unknownField name)

def compilePredicate (username : String) (predicate : Predicate) :
    Except CompileError Fragment := do
  let field ← lookupField predicate.field
  let fragment ←
    match predicate with
    | .compare _ op value => compare field op (stripQuotes value)
    | .between _ low high => between field (stripQuotes low) (stripQuotes high)
  (requireField username field fragment).mapError .fragment

def compilePredicates (username : String) : List Predicate → Except CompileError (List Fragment)
  | [] => .ok []
  | predicate :: predicates => do
    let fragment ← compilePredicate username predicate
    return fragment :: (← compilePredicates username predicates)

def combine (connective : Connective) (parts : List Fragment) : Except CompileError Fragment :=
  (Fragment.combine connective parts).mapError .fragment

mutual

def compileExpr (username : String) : Expr → Except CompileError Fragment
  | .or operands => do combine .or (← compileAll username operands)
  | .and operands => do combine .and (← compileAll username operands)
  | .not operand => return (← compileExpr username operand).not
  | .bracket inner => return (← compileExpr username inner).enclose
  | .tests predicates => do combine .and (← compilePredicates username predicates)

def compileAll (username : String) : List Expr → Except CompileError (List Fragment)
  | [] => .ok []
  | operand :: operands => do
    let fragment ← compileExpr username operand
    return fragment :: (← compileAll username operands)

end

def orderExpr (field : Field) : String :=
  match field.column? with
  | some column => column.qualified
  | none => rankingOrder

def addOrderKeys (username : String) (fragment : Fragment) :
    List OrderKey → Except CompileError Fragment
  | [] => .ok fragment
  | key :: keys => do
    let field ← lookupField key.field
    let required ← (requireField username field fragment).mapError .fragment
    addOrderKeys username (required.addOrder (orderExpr field) key.direction) keys

def compileOrderKeys (username : String) (keys : List OrderKey) : Except CompileError Fragment :=
  addOrderKeys username .empty keys

def parseQuery (query : String) : Except CompileError Expr := (Query.parse query).mapError .parse

def parseOrderList (order : String) : Except CompileError (List OrderKey) :=
  (Query.parseOrder order).mapError .parse

def compileOrder (order username : String) : Except CompileError Fragment := do
  compileOrderKeys username (← parseOrderList order)

def compileQuery (query username : String) : Except CompileError Fragment :=
  if Text.isBlankText query then .ok .empty else do compileExpr username (← parseQuery query)

def restrict (scope : Scope) (fragment : Fragment) : Except CompileError Fragment :=
  match scope.restriction? with
  | none => .ok fragment
  | some sql => do (fragment.and (← condition sql [])).mapError .fragment

def compile (query order username : String) (scope : Scope) : Except CompileError Fragment := do
  let matched ← compileQuery query username
  let restricted ← restrict scope matched
  let keys ← parseOrderList order
  (restricted.mergeOrder (← compileOrderKeys username keys)).mapError .fragment

end MediaSearch.Sql
