import GraphServe.Document.Ast

/-!
# Reading documents

A document is read from its tokens.  Reading goes on behind a fault, so that one pass finds all of
them; a tree is only of use when there was none.

* `Document.read` gives the definitions of a text or the faults in it, by place.
* `Fault.message` is the wording of a fault.

Selection sets, the items of lists, the fields of objects and list types may be nested to a limit,
past which reading gives up: only what is wrong with the tokens themselves is still found.
-/

namespace GraphServe.Document

/-- What is wrong with a document at a place. -/
structure Fault where
  /-- The limit of nesting was met; otherwise the document is malformed. -/
  isLimit : Bool
  text    : String
  place   : Nat
deriving DecidableEq, Repr

/-- The wording of a fault. -/
def Fault.message (f : Fault) : String :=
  if f.isLimit then f.text else "syntax error: " ++ f.text

/-- The fault that a lexeme is. -/
def Lexeme.fault? : Lexeme → Option Fault
  | token _         => none
  | fault text place => some ⟨false, text, place⟩

namespace Reader

/-- How deep documents may be nested. -/
def depthLimit : Nat := 500

/-- Where reading stands. -/
structure State where
  /-- The tokens to come.  There are none once the end has been passed. -/
  rest   : List Token
  /-- The faults found, last first. -/
  faults : List Fault := []
  depth  : Nat := 0
  /-- Whether faults still count. -/
  heeds  : Bool := true

/-- A step of reading. -/
abbrev Read := StateM State

/-- Note a fault. -/
def note (f : Fault) : Read Unit :=
  modify fun s => if s.heeds then { s with faults := f :: s.faults } else s

/-- The next token. -/
def peek : Read (Option Token) := return (← get).rest.head?

/-- The token after the next, blanks and comments apart; a comma counts. -/
def peekSecond : Read (Option Token) := return ((← get).rest.drop 1).find? (!·.isSpace)

/-- The place of the next token. -/
def here : Read Nat := return ((← peek).map (·.place)).getD 0

/-- Past the next token alone. -/
def pop : Read Unit := modify fun s => { s with rest := s.rest.drop 1 }

/-- Past what only keeps tokens apart. -/
def skip : Read Unit := modify fun s => { s with rest := s.rest.dropWhile Token.isIgnored }

/-- Past the next token and what keeps it apart from the one after. -/
def bump : Read Unit := do
  pop
  skip

/-- A fault at the next token. -/
def fail (text : String) : Read Unit := do
  match ← peek with
  | some t => note ⟨false, text, t.place⟩
  | none   => return

/-- A fault at the next token, which is passed. -/
def failAndBump (text : String) : Read Unit := do
  fail text
  bump

/-- Whether the next token is a punctuator. -/
def at? (text : String) : Read Bool := do
  match ← peek with
  | some t => return t.kind = .punctuator && t.text = text
  | none   => return false

/-- Whether the next token is a name. -/
def atName : Read Bool := return (← peek).any (·.kind = .name)

/-- Whether the next token is a name or a string. -/
def atNameOrString : Read Bool := return (← peek).any fun t => t.kind = .name || t.isString

/-- Whether the next token is a given word. -/
def atWord (word : String) : Read Bool := do
  match ← peek with
  | some t => return t.kind = .name && t.text = word
  | none   => return false

/-- Past a punctuator, which has a name in messages. -/
def expect (text label : String) : Read Unit := do
  if ← at? text then bump
  else
    match ← peek with
    | some t =>
        let found := if t.kind = .finish then "EOF" else t.text
        note ⟨false, "expected " ++ label ++ ", got " ++ found, t.place⟩
    | none   => return

/-- Past a punctuator if it is there. -/
def accept (text : String) : Read Bool := do
  if ← at? text then
    bump
    return true
  else return false

/-- Past a word if it is there. -/
def acceptWord (word : String) : Read Bool := do
  if ← atWord word then
    bump
    return true
  else return false

/-- A name. -/
def name (missing : String := "expected a Name") : Read (Located String) := do
  match ← peek with
  | some t =>
      if t.kind = .name then
        bump
        return ⟨t.text, t.place⟩
      else
        fail missing
        return ⟨"", t.place⟩
  | none   => return ⟨"", 0⟩

/-- Run a step one level deeper, or give up at the limit. -/
def deeper {α : Type} (otherwise : α) (step : Read α) : Read α := do
  let s ← get
  if depthLimit ≤ s.depth then
    note ⟨true, "parser recursion limit reached", ← here⟩
    modify fun s => { s with heeds := false }
    return otherwise
  else
    modify fun s => { s with depth := s.depth + 1 }
    let a ← step
    modify fun s => { s with depth := s.depth - 1 }
    return a

/-- One part and those that follow while another starts; a fault if none does. -/
def parts {α : Type} (starts : Read Bool) (part : Read α) (missing : String) :
    Nat → Read (List α)
  | 0        => return []
  | fuel + 1 => do
      if ← starts then
        let first ← part
        return first :: (← others fuel)
      else
        fail missing
        return []
where
  /-- The parts that follow while another starts. -/
  others : Nat → Read (List α)
    | 0        => return []
    | fuel + 1 => do
        if ← starts then
          let first ← part
          return first :: (← others fuel)
        else return []

/-- Parts divided by a punctuator, which may also stand before the first. -/
def divided {α : Type} (divider : String) (part : Read α) (fuel : Nat) : Read (List α) := do
  let _ ← accept divider
  let first ← part
  return first :: (← others fuel)
where
  /-- The parts behind further dividers. -/
  others : Nat → Read (List α)
    | 0        => return []
    | fuel + 1 => do
        if ← accept divider then
          let next ← part
          return next :: (← others fuel)
        else return []

/-! ### Types and values -/

/-- A type, unless the next token starts none; that token is passed and given back. -/
def typeRef? : Nat → Read (Except Token TypeRef)
  | 0        => return .ok default
  | fuel + 1 => do
      match ← peek with
      | none   => return .ok default
      | some t =>
          if t.kind = .punctuator && t.text = "[" then
            bump
            let item ← deeper (.ok default) (typeRef? fuel)
            match item with
            | .ok _          => pure ()
            | .error refused => note ⟨false, "expected item type", refused.place⟩
            expect "]" "R_BRACK"
            return .ok (.list (item.toOption.getD default) (← requiredMark))
          else if t.kind = .name then
            pop
            return .ok (.named t.text (← requiredMark))
          else
            pop
            return .error t
where
  /-- The mark of a type that does not admit `null`. -/
  requiredMark : Read Bool := do
    skip
    accept "!"

/-- A type. -/
def typeRef (fuel : Nat) : Read TypeRef := do
  match ← typeRef? fuel with
  | .ok type => return type
  | .error t =>
      note ⟨false, "expected a type", t.place⟩
      return default

/-- Whether a type starts here. -/
def atType : Read Bool := do
  if ← atName then return true else at? "["

/-- The text that a string token stands for. -/
def stringOf (t : Token) : String :=
  let inside (quotes : Nat) := ((t.text.toList.drop quotes).reverse.drop quotes).reverse
  String.ofList <|
    if t.kind = .blockString then blockString (inside 3) else unescape (inside 1)

mutual

/-- A value.  In a constant one there are no variables; a token that starts no value is passed if
`skips`. -/
def value (constant skips : Bool) : Nat → Read (Located Value)
  | 0        => return default
  | fuel + 1 => do
      match ← peek with
      | none   => return ⟨.null, 0⟩
      | some t =>
          let one (v : Value) : Read (Located Value) := do
            bump
            return ⟨v, t.place⟩
          match t.kind with
          | .int         => one (.int t.text)
          | .float       => one (.float t.text)
          | .string      => one (.string (stringOf t))
          | .blockString => one (.string (stringOf t))
          | .name        =>
              one <|
                if t.text = "true" then .bool true
                else if t.text = "false" then .bool false
                else if t.text = "null" then .null
                else .enum t.text
          | .punctuator  =>
              if t.text = "$" then
                if constant then refuse skips "unexpected variable value in a Const context"
                bump
                let n ← name
                return ⟨.variable n.node, t.place⟩
              else if t.text = "[" then
                bump
                return ⟨.list (← values constant fuel), t.place⟩
              else if t.text = "\x7b" then
                bump
                let fields ← objectFields constant fuel
                expect "\x7d" "R_CURLY"
                return ⟨.object fields, t.place⟩
              else noValue t
          | _            => noValue t
where
  /-- A fault at a token, which is passed or not. -/
  refuse (skips : Bool) (text : String) : Read Unit :=
    if skips then failAndBump text else fail text
  /-- The fault of a token that starts no value. -/
  noValue (t : Token) : Read (Located Value) := do
    refuse skips "expected a valid Value"
    return ⟨.null, t.place⟩

/-- The items of a list up to its bracket, or up to the end. -/
def values (constant : Bool) : Nat → Read (List (Located Value))
  | 0        => return []
  | fuel + 1 => do
      match ← peek with
      | none   => return []
      | some t =>
          if t.kind = .finish then return []
          else if ← accept "]" then return []
          else
            let v ← deeper none (some <$> value constant true fuel)
            match v with
            | some v => return v :: (← values constant fuel)
            | none   => return []

/-- The fields of an object; one without a value is dropped. -/
def objectFields (constant : Bool) : Nat → Read (List (String × Located Value))
  | 0        => return []
  | fuel + 1 => do
      if ← atName then
        let n ← name
        if ← accept ":" then
          let v ← deeper default (value constant true fuel)
          return (n.node, v) :: (← objectFields constant fuel)
        else objectFields constant fuel
      else return []

end

/-- The default after an equals sign, if there is one. -/
def default? (fuel : Nat) : Read (Option (Located Value)) := do
  if ← accept "=" then some <$> value true false fuel else return none

/-! ### Arguments and directives -/

/-- An argument, if it has a value. -/
def argument? (constant : Bool) (fuel : Nat) : Read (Option Argument) := do
  let n ← name
  if ← accept ":" then
    let v ← value constant false fuel
    return some ⟨n.node, v, n.place⟩
  else return none

/-- The arguments between parentheses, if there are any; one without a value is dropped. -/
def arguments (constant : Bool) (fuel : Nat) : Read (List Argument) := do
  if ← accept "(" then
    let args ← parts atName (argument? constant fuel) "expected an Argument" fuel
    expect ")" "R_PAREN"
    return args.filterMap id
  else return []

/-- The directives that follow. -/
def directives (constant : Bool) : Nat → Read (List Directive)
  | 0        => return []
  | fuel + 1 => do
      let place ← here
      if ← accept "@" then
        let n ← name
        let args ← arguments constant fuel
        return ⟨n.node, args, place⟩ :: (← directives constant fuel)
      else return []

/-! ### Selections -/

mutual

/-- A selection set, from its brace on. -/
def selectionSet : Nat → Read (List (Selection Unit))
  | 0        => return []
  | fuel + 1 => do
      bump
      deeper [] do
        let found ← selections false fuel
        expect "\x7d" "R_CURLY"
        return found

/-- The selections that follow; `found` says whether there was one before. -/
def selections (found : Bool) : Nat → Read (List (Selection Unit))
  | 0        => return []
  | fuel + 1 => do
      match ((← peek).map (·.kind)).getD .finish with
      | .spread =>
          let place ← here
          let second := (← peekSecond).getD default
          if second.kind = .name && second.text ≠ "on" then
            bump
            let n ← name
            let ds ← directives false fuel
            return .spread n.node ds place :: (← selections true fuel)
          else if second.kind = .name
              || (second.kind = .punctuator && (second.text = "@" || second.text = "\x7b")) then
            let s ← inlineFragment fuel
            return s :: (← selections true fuel)
          else
            failAndBump "expected an Inline Fragment or a Fragment Spread"
            selections true fuel
      | .name =>
          let f ← field fuel
          return f :: (← selections true fuel)
      | _ =>
          if !found then fail "expected at least one Selection in Selection Set"
          return []

/-- A fragment on the spot, from its dots on. -/
def inlineFragment : Nat → Read (Selection Unit)
  | 0        => return default
  | fuel + 1 => do
      let place ← here
      bump
      let condition ←
        if ← atName then
          bump
          some <$> name "expected a Name in Type Condition"
        else pure none
      let ds ← directives false fuel
      if ← at? "\x7b" then return .inline condition ds place (← selectionSet fuel)
      else
        fail "expected Selection Set"
        return .inline condition ds place []

/-- A field. -/
def field : Nat → Read (Selection Unit)
  | 0        => return default
  | fuel + 1 => do
      let place ← here
      let aliased := (← peekSecond).any fun t => t.kind = .punctuator && t.text = ":"
      let alias? ←
        if aliased then
          let a ← name
          bump
          pure (some a.node)
        else pure none
      let n ← name
      let args ← arguments false fuel
      let ds ← directives false fuel
      let inner ← if ← at? "\x7b" then selectionSet fuel else pure []
      let head : FieldHead Unit :=
        { alias?, name := n, arguments := args, directives := ds, place, note := () }
      return .field head inner

end

/-! ### Operations and fragments -/

/-- A variable definition. -/
def variableDefinition (fuel : Nat) : Read VariableDefinition := do
  let place ← here
  bump
  let n ← name
  if ← accept ":" then
    if ← atType then
      let type ← typeRef fuel
      let default? ← default? fuel
      let ds ← directives true fuel
      return ⟨n.node, type, default?, ds, place⟩
    else fail "expected a Type"
  else fail "expected a Name"
  return ⟨n.node, default, none, [], place⟩

/-- The variable definitions between parentheses, if there are any. -/
def variableDefinitions (fuel : Nat) : Read (List VariableDefinition) := do
  if ← accept "(" then
    let vs ← parts (at? "$") (variableDefinition fuel) "expected a Variable Definition" fuel
    expect ")" "R_PAREN"
    return vs
  else return []

/-- The operation that a word stands for. -/
def operationType? : String → Option OperationType
  | "query"        => some .query
  | "mutation"     => some .mutation
  | "subscription" => some .subscription
  | _              => none

/-- The word for an operation. -/
def operationType : Read OperationType := do
  match ← peek with
  | none   => return .query
  | some t =>
      match operationType? t.text with
      | some kind =>
          bump
          return kind
      | none      =>
          failAndBump "expected either a 'mutation', a 'query', or a 'subscription'"
          return .query

/-- An operation. -/
def operation (fuel : Nat) : Read Definition := do
  let place ← here
  if ← atName then
    let kind ← operationType
    let n ← if ← atName then some <$> name else pure none
    let vs ← variableDefinitions fuel
    let ds ← directives false fuel
    let ss ←
      if ← at? "\x7b" then selectionSet fuel
      else
        failAndBump "expected a Selection Set"
        pure []
    return .operation ⟨kind, n, vs, ds, ss, place⟩
  else if ← at? "\x7b" then
    return .operation ⟨.query, none, [], [], ← selectionSet fuel, place⟩
  else
    failAndBump "expected an Operation Type or a Selection Set"
    return .operation ⟨.query, none, [], [], [], place⟩

/-- A named fragment. -/
def fragment (fuel : Nat) : Read Definition := do
  let place ← here
  bump
  let n ←
    if ← atWord "on" then
      fail "Fragment Name cannot be 'on'"
      pure ⟨"", place⟩
    else name "expected Fragment Name"
  if !(← acceptWord "on") then fail "expected 'on'"
  let condition ← name "expected a Name in Type Condition"
  let ds ← directives false fuel
  let ss ←
    if ← at? "\x7b" then selectionSet fuel
    else
      fail "expected a Selection Set"
      pure []
  return .fragment ⟨n, condition, ds, ss, place⟩

/-! ### Parts of a schema -/

/-- A description, if there is one. -/
def description : Read (Option String) := do
  match ← peek with
  | some t =>
      if t.isString then
        bump
        return some (stringOf t)
      else return none
  | none   => return none

/-- What stands between braces, if anything does. -/
def braced {α : Type} (inside : Read (List α)) : Read (List α) := do
  if ← accept "\x7b" then
    let found ← inside
    expect "\x7d" "R_CURLY"
    return found
  else return []

/-- An input value. -/
def inputValue (fuel : Nat) : Read InputValue := do
  let d ← description
  let n ← name
  if ← accept ":" then
    if ← atType then
      let type ← typeRef fuel
      let default? ← default? fuel
      let ds ← directives true fuel
      return ⟨n.node, d, type, default?.map (·.node), ds⟩
    else fail "expected a Type"
  else fail "expected a Name"
  return ⟨n.node, d, default, none, []⟩

/-- The arguments that a field or directive takes. -/
def argumentDefinitions (fuel : Nat) : Read (List InputValue) := do
  if ← accept "(" then
    let vs ← parts atNameOrString (inputValue fuel) "expected an Argument Definition" fuel
    expect ")" "R_PAREN"
    return vs
  else return []

/-- The fields of an input object between braces, if there are any. -/
def inputFields (fuel : Nat) : Read (List InputValue) :=
  braced (parts atNameOrString (inputValue fuel) "expected an Input Value Definition" fuel)

/-- A field definition. -/
def fieldDefinition (fuel : Nat) : Read FieldDefinition := do
  let d ← description
  let n ← name
  let args ← argumentDefinitions fuel
  if ← accept ":" then
    if ← atType then
      let type ← typeRef fuel
      let ds ← directives true fuel
      return ⟨n.node, d, args, type, ds⟩
    else fail "expected a Type"
  else fail "expected a type"
  return ⟨n.node, d, args, default, []⟩

/-- The field definitions between braces, if there are any. -/
def fieldDefinitions (fuel : Nat) : Read (List FieldDefinition) :=
  braced (parts atNameOrString (fieldDefinition fuel) "expected Field Definition" fuel)

/-- A member of an enum. -/
def enumValue (fuel : Nat) : Read EnumValue := do
  let d ← description
  if (← peek).any fun t => t.text ∈ ["true", "false", "null"] then fail "invalid Enum Value"
  let n ← name "expected Enum Value"
  let ds ← directives true fuel
  return ⟨n.node, d, ds⟩

/-- The members of an enum between braces, if there are any. -/
def enumValues (fuel : Nat) : Read (List EnumValue) :=
  braced (parts atNameOrString (enumValue fuel) "expected Enum Value Definition" fuel)

/-- The interfaces that a type implements. -/
def interfaces (fuel : Nat) : Read (List String) := do
  if ← acceptWord "implements" then
    divided "&" ((·.node) <$> name "expected an Interface name") fuel
  else return []

/-- The members of a union after an equals sign, if there are any. -/
def unionMembers (fuel : Nat) : Read (List String) := do
  if ← accept "=" then
    divided "|" ((·.node) <$> name "expected Union Member Type") fuel
  else return []

/-- A root type for a kind of operation; without a type after its colon it is dropped. -/
def root? : Read (Option (OperationType × String)) := do
  let kind ← operationType
  if ← accept ":" then
    if ← atName then
      let n ← name
      return some (kind, n.node)
    else return none
  else
    fail "expected a Name Type"
    return none

/-- The root types that follow. -/
def roots : Nat → Read (List (OperationType × String))
  | 0        => return []
  | fuel + 1 => do
      if ← atName then
        let root ← root?
        return root.toList ++ (← roots fuel)
      else return []

/-! ### Definitions of a schema -/

/-- The definition of a schema after its description. -/
def schemaDefinition (d : Option String) (fuel : Nat) : Read SchemaDefinition := do
  bump
  let ds ← directives true fuel
  let rs ← braced do
    if !(← atName) then fail "expected Root Operation Type Definition"
    roots fuel
  return ⟨d, ds, rs⟩

/-- The definition of an object after its description. -/
def objectDefinition (d : Option String) (fuel : Nat) : Read TypeDefinition := do
  bump
  let n ← name "expected a name"
  let is ← interfaces fuel
  let ds ← directives true fuel
  let fs ← fieldDefinitions fuel
  return ⟨n.node, d, ds, .object is fs⟩

/-- The definition of a type other than an object after its description. -/
def typeDefinition (d : Option String) (fuel : Nat) : Read TypeDefinition := do
  let word := ((← peek).map (·.text)).getD ""
  bump
  let n ← name
  match word with
  | "interface" =>
      let is ← interfaces fuel
      let ds ← directives true fuel
      return ⟨n.node, d, ds, .interface is (← fieldDefinitions fuel)⟩
  | "union" =>
      let ds ← directives true fuel
      return ⟨n.node, d, ds, .union (← unionMembers fuel)⟩
  | "enum" =>
      let ds ← directives true fuel
      return ⟨n.node, d, ds, .enum (← enumValues fuel)⟩
  | "input" =>
      let ds ← directives true fuel
      return ⟨n.node, d, ds, .input (← inputFields fuel)⟩
  | _ =>
      return ⟨n.node, d, ← directives true fuel, .scalar⟩

/-- The places that directives may stand at. -/
def directiveLocations : List String :=
  ["QUERY", "MUTATION", "SUBSCRIPTION", "FIELD", "FRAGMENT_DEFINITION", "FRAGMENT_SPREAD",
   "INLINE_FRAGMENT", "VARIABLE_DEFINITION", "SCHEMA", "SCALAR", "OBJECT", "FIELD_DEFINITION",
   "ARGUMENT_DEFINITION", "INTERFACE", "UNION", "ENUM", "ENUM_VALUE", "INPUT_OBJECT",
   "INPUT_FIELD_DEFINITION"]

/-- A place that a directive may stand at. -/
def directiveLocation : Read String := do
  match ← peek with
  | none   => return ""
  | some t =>
      if t.kind ≠ .name then fail "expected Directive Location"
      else if t.text ∈ directiveLocations then bump
      else fail "expected valid Directive Location"
      return t.text

/-- The definition of a directive after its description. -/
def directiveDefinition (d : Option String) (fuel : Nat) : Read DirectiveDefinition := do
  bump
  if !(← accept "@") then fail "expected @ symbol"
  let n ← name
  let args ← argumentDefinitions fuel
  let repeatable ← acceptWord "repeatable"
  if !(← acceptWord "on") then fail "expected Directive Locations"
  if (← atName) || (← at? "|") then
    let locations ← divided "|" directiveLocation fuel
    return ⟨n.node, d, args, repeatable, locations⟩
  else
    fail "expected valid Directive Location"
    return ⟨n.node, d, args, repeatable, []⟩

/-- A definition that belongs into a schema and starts with a word, after a description or not. -/
def schemaPart (word : String) (fuel : Nat) : Read Definition := do
  let place ← here
  let d ← description
  let part : TypeSystemDefinition ←
    match word with
    | "schema"    => .schema <$> schemaDefinition d fuel
    | "directive" => .directive <$> directiveDefinition d fuel
    | "type"      => .type <$> objectDefinition d fuel
    | _           => .type <$> typeDefinition d fuel
  return .typeSystem part place

/-! ### Extensions of a schema -/

/-- The extension of a schema after its words. -/
def schemaExtension (fuel : Nat) : Read SchemaDefinition := do
  let directed ← at? "@"
  let ds ← directives true fuel
  let (rooted, rs) ←
    if ← accept "\x7b" then
      let rooted ← atName
      let rs ← roots fuel
      expect "\x7d" "R_CURLY"
      pure (rooted, rs)
    else pure (false, [])
  if !directed && !rooted then fail "expected directives or Root Operation Type Definition"
  return ⟨none, ds, rs⟩

/-- The extension of a type after its words, of which the second is given. -/
def typeExtension (word : String) (fuel : Nat) : Read TypeDefinition := do
  let n ← name
  let extends? ← atWord "implements"
  let is ← if word ∈ ["type", "interface"] then interfaces fuel else pure []
  let directed ← at? "@"
  let ds ← directives true fuel
  let bodied ← if word = "union" then at? "=" else at? "\x7b"
  let make (body : TypeBody) (empty : Bool) (missing : String) : Read TypeDefinition := do
    if empty then fail missing
    return ⟨n.node, none, ds, body⟩
  match word with
  | "type"      =>
      make (.object is (← fieldDefinitions fuel)) (!extends? && !directed && !bodied)
        "expected an Implements Interface, Directives or a Fields Definition"
  | "interface" =>
      make (.interface is (← fieldDefinitions fuel)) (!extends? && !directed && !bodied)
        "exptected an Implements Interfaces, Directives, or a Fields Definition"
  | "union"     =>
      make (.union (← unionMembers fuel)) (!directed && !bodied)
        "expected Directives or Union Member Types"
  | "enum"      =>
      make (.enum (← enumValues fuel)) (!directed && !bodied)
        "expected Directive or Enum Values Definition"
  | "input"     =>
      make (.input (← inputFields fuel)) (!directed && !bodied)
        "expected Directives or an Input Fields Definition"
  | _           => make .scalar (!directed) "expected Directives"

/-- The words for what can be extended. -/
def extendable : List String := ["schema", "scalar", "type", "interface", "union", "enum", "input"]

/-- An extension, if what it extends can be. -/
def extension? (fuel : Nat) : Read (Option Definition) := do
  let place ← here
  let word := ((← peekSecond).map (·.text)).getD ""
  if word ∈ extendable then
    bump
    bump
    let part : TypeSystemDefinition ←
      if word = "schema" then .extendSchema <$> schemaExtension fuel
      else .extendType <$> typeExtension word fuel
    return some (.typeSystem part place)
  else
    failAndBump "Invalid Type System Extension. This extension cannot be applied."
    return none

/-! ### Documents -/

/-- The words that a definition of a schema starts with. -/
def schemaWords : List String :=
  ["directive", "enum", "input", "interface", "type", "scalar", "schema", "union"]

/-- A definition that starts with some text, after a description or not. -/
def definition? (word : String) (fuel : Nat) : Read (Option Definition) := do
  if word ∈ schemaWords then some <$> schemaPart word fuel
  else if word = "extend" then extension? fuel
  else if word = "fragment" then some <$> fragment fuel
  else if word ∈ ["query", "mutation", "subscription", "\x7b"] then some <$> operation fuel
  else
    failAndBump "expected definition"
    return none

/-- The definitions that follow. -/
def definitions : Nat → Read (List Definition)
  | 0        => return []
  | fuel + 1 => do
      match ← peek with
      | none   => return []
      | some t =>
          if t.kind = .finish then return []
          else if t.isString then
            let word := ((← peekSecond).map (·.text)).getD ""
            let found ← definition? word fuel
            return found.toList ++ (← definitions fuel)
          else if t.kind = .name || (t.kind = .punctuator && t.text = "\x7b") then
            let found ← definition? t.text fuel
            return found.toList ++ (← definitions fuel)
          else
            failAndBump "expected a StringValue, Name or OperationDefinition"
            definitions fuel

/-- A whole document; an empty one is a fault. -/
def document (fuel : Nat) : Read (List Definition) := do
  skip
  if (← peek).any (·.kind = .finish) then
    fail "Unexpected <EOF>."
    return []
  else definitions fuel

end Reader

/-- The definitions of a text, or the faults in it by place. -/
def read (text : String) : Except (List Fault) (List Definition) :=
  let lexemes := Lexeme.ofText text
  let tokens := lexemes.filterMap Lexeme.token?
  let (definitions, state) := (Reader.document (4 * tokens.length + 8)).run { rest := tokens }
  let faults := lexemes.filterMap Lexeme.fault? ++ state.faults.reverse
  if faults.isEmpty then .ok definitions
  else .error (faults.mergeSort fun a b => a.place ≤ b.place)

end GraphServe.Document
