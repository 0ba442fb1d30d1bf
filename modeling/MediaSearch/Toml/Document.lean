import MediaSearch.Toml.Token

set_option autoImplicit false

namespace MediaSearch.Toml

/-- Arrays and inline tables may lie inside one another this deep, and a key may have this many
parts. -/
def maxNesting : Nat := 80

structure Key where
  parts : List String
  needsPart : Bool
  deriving DecidableEq, Repr

namespace Key

def start : Key := ⟨[], true⟩

def isComplete (key : Key) : Bool := !key.needsPart

def isStart (key : Key) : Bool := key.parts.isEmpty && key.needsPart

def isBareChar (c : Char) : Bool := c.isAlphanum || c == '_' || c == '-'

def addPart? (key : Key) (part : String) : Option Key :=
  if key.needsPart && key.parts.length < maxNesting then some ⟨key.parts ++ [part], false⟩
  else none

def addDot? (key : Key) : Option Key := if key.needsPart then none else some ⟨key.parts, true⟩

def endPart? (key : Key) (part : List Char) : Option Key :=
  if part.isEmpty then some key else key.addPart? (String.ofList part.reverse)

/-- Adds the characters of a word: parts without quotes, dots between parts, and tabs around them.
`part` holds the characters of the current part, backwards. -/
def addWord? (key : Key) (part : List Char) : List Char → Option Key
  | [] => key.endPart? part
  | c :: rest =>
    if c = '.' then
      match (key.endPart? part).bind addDot? with
      | some key => addWord? key [] rest
      | none => none
    else if c = '\t' then
      match key.endPart? part with
      | some key => addWord? key [] rest
      | none => none
    else if isBareChar c then addWord? key (c :: part) rest
    else none

def add? (key : Key) : Token → Option Key
  | .word text => key.addWord? [] text
  | .text value false => key.addPart? value
  | _ => none

end Key

inductive Frame where
  | array (items : List Item)
  | table (entries : Table) (key : List String)

inductive State where
  | lineStart
  | secondOpen
  | header (isElement : Bool) (key : Key)
  | secondClose (path : List String)
  | lineEnd
  | key (key : Key)
  | value (path : List String) (stack : List Frame)
  | item (path : List String) (items : List Item) (stack : List Frame)
  | inlineKey (path : List String) (entries : Table) (key : Key) (stack : List Frame)
  -- The equals sign of an inline table, when a line break has ended its key.
  | inlineEquals (path : List String) (entries : Table) (key : List String) (stack : List Frame)
  -- A comma, or the end of the innermost array or inline table.
  | separator (path : List String) (stack : List Frame)

structure Document where
  root : Table
  current : List String

namespace Document

def empty : Document := ⟨[], []⟩

def define? (document : Document) (key : List String) (item : Item) : Option Document :=
  (document.root.changeAt (Table.define item key) document.current).map fun root =>
    { document with root }

def openAt? (document : Document) (opening : String → Table → Option Table) (path : List String) :
    Option Document :=
  match path.getLast? with
  | none => none
  | some name =>
    (document.root.changeAt (opening name) path.dropLast).map fun root => ⟨root, path⟩

end Document

def complete (path : List String) (item : Item) (document : Document) :
    List Frame → Option (State × Document)
  | [] => (document.define? path item).map (.lineEnd, ·)
  | .array items :: stack => some (.separator path (.array (items ++ [item]) :: stack), document)
  | .table entries key :: stack =>
    (Table.define item key entries).map fun entries =>
      (.separator path (.table entries [] :: stack), document)

def startValue (path : List String) (stack : List Frame) (document : Document) :
    Token → Option (State × Document)
  | .text value _ => complete path (.text value) document stack
  | .word word =>
    match Item.ofWord? word with
    | some item => complete path item document stack
    | none => none
  | .bracketOpen _ =>
    if stack.length < maxNesting then some (.item path [] stack, document) else none
  | .braceOpen =>
    if stack.length < maxNesting then some (.inlineKey path [] .start stack, document) else none
  | _ => none

def step (document : Document) : State → Token → Option (State × Document)
  | .lineStart, .newline => some (.lineStart, document)
  | .lineStart, .bracketOpen true => some (.secondOpen, document)
  | .lineStart, .bracketOpen false => some (.header false .start, document)
  | .lineStart, token => (Key.start.add? token).map (.key ·, document)
  | .secondOpen, .bracketOpen _ => some (.header true .start, document)
  | .header isElement key, .bracketClose doubled =>
    if key.isComplete then
      if isElement then if doubled then some (.secondClose key.parts, document) else none
      else (document.openAt? Table.openTable key.parts).map (.lineEnd, ·)
    else none
  | .header isElement key, token => (key.add? token).map (.header isElement ·, document)
  | .secondClose path, .bracketClose _ =>
    (document.openAt? Table.openElement path).map (.lineEnd, ·)
  | .lineEnd, .newline => some (.lineStart, document)
  | .key key, .equals => if key.isComplete then some (.value key.parts [], document) else none
  | .key key, token => (key.add? token).map (.key ·, document)
  | .value path stack, .newline =>
    if stack.isEmpty then none else some (.value path stack, document)
  | .value path stack, token => startValue path stack document token
  | .item path items stack, .newline => some (.item path items stack, document)
  | .item path items stack, .bracketClose _ => complete path (.array items) document stack
  | .item path items stack, token => startValue path (.array items :: stack) document token
  | .inlineKey path entries key stack, .newline =>
    if key.isStart then some (.inlineKey path entries key stack, document)
    else if key.isComplete then some (.inlineEquals path entries key.parts stack, document)
    else none
  | .inlineKey path entries key stack, .braceClose =>
    if key.isStart then complete path (.table .inline entries) document stack else none
  | .inlineKey path entries key stack, .equals =>
    if key.isComplete then some (.value path (.table entries key.parts :: stack), document)
    else none
  | .inlineKey path entries key stack, token =>
    (key.add? token).map fun key => (.inlineKey path entries key stack, document)
  | .inlineEquals path entries key stack, .newline =>
    some (.inlineEquals path entries key stack, document)
  | .inlineEquals path entries key stack, .equals =>
    some (.value path (.table entries key :: stack), document)
  | .separator path stack, .newline => some (.separator path stack, document)
  | .separator path (.array items :: stack), .comma => some (.item path items stack, document)
  | .separator path (.array items :: stack), .bracketClose _ =>
    complete path (.array items) document stack
  | .separator path (.table entries _ :: stack), .comma =>
    some (.inlineKey path entries .start stack, document)
  | .separator path (.table entries _ :: stack), .braceClose =>
    complete path (.table .inline entries) document stack
  | _, _ => none

def run (document : Document) (state : State) : List Token → Option (State × Document)
  | [] => some (state, document)
  | token :: tokens =>
    match step document state token with
    | some (state, document) => run document state tokens
    | none => none

def dropByteOrderMark : List Char → List Char
  | [] => []
  | c :: rest => if c = '\ufeff' then rest else c :: rest

def parse? (text : String) : Option Table :=
  match tokens? (dropByteOrderMark text.toList) with
  | none => none
  | some tokens =>
    match run .empty .lineStart tokens with
    | some (.lineStart, document) => some document.root
    | some (.lineEnd, document) => some document.root
    | _ => none

end MediaSearch.Toml
