import MediaSearch.Command.Request

set_option autoImplicit false

/-!
Reading a command line. Arguments are read from left to right. The value of a switch may be a separate
argument; such a switch is settled only when the next switch or the query comes, or at the end, and a
fault in it is reported then. An argument that no command takes is reported at once.
-/

namespace MediaSearch.Command

inductive Switch where
  | order
  | user
  | scope
  | table
  | columns
  | json
  | explain
  | inHome
  | force
  | help
  deriving DecidableEq, Repr

namespace Switch

def long : Switch → String
  | .order => "order"
  | .user => "user"
  | .scope => "scope"
  | .table => "table"
  | .columns => "columns"
  | .json => "json"
  | .explain => "explain"
  | .inHome => "global"
  | .force => "force"
  | .help => "help"

def short? : Switch → Option Char
  | .order => some 'o'
  | .user => some 'u'
  | .scope => some 's'
  | .help => some 'h'
  | _ => none

def takesValue : Switch → Bool
  | .order => true
  | .user => true
  | .scope => true
  | .table => true
  | .columns => true
  | _ => false

/-- Whether a separate value may look like a switch. -/
def takesAnyValue : Switch → Bool
  | .order => true
  | _ => false

end Switch

inductive Verb where
  | compile
  | fields
  | init
  | settings
  deriving DecidableEq, Repr

namespace Verb

def every : List Verb := [.compile, .fields, .init, .settings]

def name : Verb → String
  | .compile => "compile"
  | .fields => "fields"
  | .init => "init"
  | .settings => "config"

def ofName? (name : String) : Option Verb := every.find? fun verb => verb.name = name

def switches : Verb → List Switch
  | .compile => [.order, .user, .scope, .table, .columns, .json, .explain, .help]
  | .fields => [.json, .help]
  | .init => [.inHome, .force, .help]
  | .settings => [.help]

def takesQuery : Verb → Bool
  | .compile => true
  | _ => false

end Verb

def long? (argument : String) : Option (String × Option String) :=
  match argument.toList with
  | '-' :: '-' :: c :: rest =>
    let chars := c :: rest
    let name := String.ofList (chars.takeWhile (· != '='))
    match chars.dropWhile (· != '=') with
    | [] => some (name, none)
    | _ :: value => some (name, some (String.ofList value))
  | _ => none

def short? (argument : String) : Option (List Char) :=
  match argument.toList with
  | '-' :: c :: rest => if c = '-' then none else some (c :: rest)
  | _ => none

structure Reading where
  query : Option String := none
  given : List (Switch × String) := []
  -- A switch that is not settled, and its value if that has been read.
  pending : Option (Switch × Option String) := none
  switchesEnded : Bool := false
  deriving DecidableEq, Repr

namespace Reading

def value? (reading : Reading) (switch : Switch) : Option String := reading.given.lookup switch

def has (reading : Reading) (switch : Switch) : Bool := (reading.value? switch).isSome

def waiting? (reading : Reading) : Option Switch :=
  match reading.pending with
  | some (switch, none) => some switch
  | _ => none

def add (reading : Reading) (switch : Switch) (value : String) : Except Usage Reading :=
  if reading.has switch then .error .repeatedSwitch
  else if switch = .help then .error .helpAsked
  else if switch = .scope && (Sql.Scope.ofName? value).isNone then .error .unknownScope
  else .ok { reading with given := reading.given ++ [(switch, value)] }

def settle (reading : Reading) : Except Usage Reading :=
  match reading.pending with
  | none => .ok reading
  | some (_, none) => .error .missingValue
  | some (switch, some value) => { reading with pending := none }.add switch value

def settleAndAdd (reading : Reading) (switch : Switch) (value : String) : Except Usage Reading := do
  (← reading.settle).add switch value

def settleAndAwait (reading : Reading) (switch : Switch) : Except Usage Reading := do
  return { ← reading.settle with pending := some (switch, none) }

def addPlain (reading : Reading) (verb : Verb) (argument : String) : Except Usage Reading :=
  if verb.takesQuery && reading.query.isNone then do
    return { ← reading.settle with query := some argument }
  else .error .unknownArgument

def addLong (reading : Reading) (verb : Verb) (name : String) (value : Option String) :
    Except Usage Reading :=
  match verb.switches.find? fun switch => switch.long = name with
  | none => .error .unknownArgument
  | some switch =>
    if switch.takesValue then
      match value with
      | some value => reading.settleAndAdd switch value
      | none => reading.settleAndAwait switch
    else
      match value with
      | some _ => .error .surplusValue
      | none => reading.settleAndAdd switch ""

def attachedValue : List Char → String
  | '=' :: rest => String.ofList rest
  | chars => String.ofList chars

def addShort (verb : Verb) : List Char → Reading → Except Usage Reading
  | [], reading => .ok reading
  | c :: rest, reading =>
    match verb.switches.find? fun switch => switch.short? = some c with
    | none => .error .unknownArgument
    | some switch =>
      if switch.takesValue then
        if rest.isEmpty then reading.settleAndAwait switch
        else reading.settleAndAdd switch (attachedValue rest)
      else
        match reading.settleAndAdd switch "" with
        | .error usage => .error usage
        | .ok reading => addShort verb rest reading

def addOpen (reading : Reading) (verb : Verb) (argument : String) : Except Usage Reading :=
  if argument = "--" then .ok { reading with switchesEnded := true }
  else
    match long? argument with
    | some (name, value) => reading.addLong verb name value
    | none =>
      match short? argument with
      | some chars => addShort verb chars reading
      | none =>
        match reading.waiting? with
        | some switch => .ok { reading with pending := some (switch, some argument) }
        | none => reading.addPlain verb argument

def step (verb : Verb) (reading : Reading) (argument : String) : Except Usage Reading :=
  if reading.switchesEnded then reading.addPlain verb argument
  else
    match reading.waiting? with
    | some switch =>
      if switch.takesAnyValue then .ok { reading with pending := some (switch, some argument) }
      else reading.addOpen verb argument
    | none => reading.addOpen verb argument

def run (verb : Verb) (reading : Reading) : List String → Except Usage Reading
  | [] => reading.settle
  | argument :: arguments => do run verb (← reading.step verb argument) arguments

def toRequest (reading : Reading) : Verb → Except Usage Request
  | .compile =>
    match reading.query with
    | none => .error .missingQuery
    | some query =>
      .ok <| .compile
        { query
          order := reading.value? .order
          username := reading.value? .user
          scope := (reading.value? .scope).bind Sql.Scope.ofName?
          table := reading.value? .table
          columns := reading.value? .columns
          json := reading.has .json
          explain := reading.has .explain }
  | .fields => .ok (.fields (reading.has .json))
  | .init => .ok (.init (reading.has .inHome) (reading.has .force))
  | .settings => .ok .settings

end Reading

def helpUsage : List String → Usage
  | [] => .helpAsked
  | [name] => if name = "help" || (Verb.ofName? name).isSome then .helpAsked else .unknownCommand
  | _ => .unknownCommand

def noVerbUsage (argument : String) (arguments : List String) : Usage :=
  if argument = "--" then
    match arguments with
    | [] => .noCommand
    | name :: _ =>
      if name = "help" || (Verb.ofName? name).isSome then .unknownArgument else .unknownCommand
  else
    match long? argument with
    | some (name, value) =>
      if name = "help" then if value.isSome then .surplusValue else .helpAsked
      else if name = "version" then if value.isSome then .surplusValue else .versionAsked
      else .unknownArgument
    | none =>
      match short? argument with
      | some ('h' :: _) => .helpAsked
      | some ('V' :: _) => .versionAsked
      | some _ => .unknownArgument
      | none => .unknownCommand

def parseArguments : List String → Except Usage Request
  | [] => .error .noCommand
  | argument :: arguments =>
    if argument = "help" then .error (helpUsage arguments)
    else
      match Verb.ofName? argument with
      | some verb => do (← Reading.run verb {} arguments).toRequest verb
      | none => .error (noVerbUsage argument arguments)

end MediaSearch.Command
