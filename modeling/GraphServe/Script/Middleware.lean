import GraphServe.Extension
import GraphServe.Json.Printer

/-!
# Scripted middleware

Middleware and extensions written down as data: what they note, answer and change.

* `Script.OperationStep`, `ResponseStep` and `FieldStep` are middleware around the three stages.
* `Script.Hooks` is an extension.
* `Script.presenter` and `Script.recovery` present failures and panics by their names.
-/

namespace GraphServe.Script

/-- Do something with a value if there is one. -/
def whenSome {α : Type} (value : Option α) (act : α → Work Unit) : Work Unit :=
  match value with
  | some a => act a
  | none   => return ()

/-! ### Operations -/

/-- Middleware around operations. -/
structure OperationStep where
  log            : Option String := none
  panic          : Option Panic := none
  /-- Answers with this response. -/
  respond        : Option Response := none
  rename         : Option String := none
  variableValues : Option Json.Members := none
  disableIntrospection : Option Bool := none
  /-- Leaves the operation without selection. -/
  drop           : Bool := false
  /-- Stores a value of the request. -/
  insert         : Option (String × Json) := none
  /-- Marks the response under a key. -/
  wrap           : Option String := none

namespace OperationStep

/-- The operation that a step hands on. -/
def change (step : OperationStep) (c : OperationContext) : OperationContext :=
  { c with
    operationName := step.rename <|> c.operationName
    variableValues := step.variableValues.getD c.variableValues
    disableIntrospection := step.disableIntrospection.getD c.disableIntrospection
    operation := if step.drop then none else c.operation }

/-- Mark the response of a handler under a key. -/
def mark (key : Option String) (handler : ResponseHandler) : ResponseHandler :=
  match key with
  | none     => handler
  | some key => fun c => do
      let r ← handler c
      return { r with extensions := r.extensions.insert key (.bool true) }

/-- The middleware of a step. -/
def toMiddleware (step : OperationStep) : OperationMiddleware := fun c => do
  whenSome step.log fun name => Work.note ("operation " ++ name ++ " in")
  whenSome step.panic Work.panic
  match step.respond with
  | some response => return .answer fun _ => return response
  | none          =>
      whenSome step.insert fun (key, value) => modify fun x =>
        { x with context := (x.context.insert Codec.json key value).2 }
      return .callOn (step.change c) fun handler => do
        whenSome step.log fun name => Work.note ("operation " ++ name ++ " out")
        return mark step.wrap handler

end OperationStep

/-! ### Responses -/

/-- What a step does before or after the response is made. -/
inductive Action where
  | report (failure : Failure)
  | register (key : String) (value : Json)
  /-- Notes an extension of the response. -/
  | readExtension (key : String)
  /-- Notes a value of the request. -/
  | readValue (key : String)
  | panic (panic : Panic)

/-- A value in a note. -/
def noted : Option Json → String
  | some value => value.render
  | none       => "none"

/-- Do an action. -/
def Action.run (c : ResponseContext) : Action → Work Unit
  | report failure     => c.addError none failure
  | register key value => c.register key value
  | readExtension key  => do
      Work.note ("extension " ++ key ++ " " ++ noted ((← get).extensions.get? key))
  | readValue key      => do
      Work.note ("context " ++ key ++ " " ++ noted ((← get).context.values.get? key))
  | panic p            => Work.panic p

/-- Middleware around responses. -/
structure ResponseStep where
  log          : Option String := none
  before       : List Action := []
  /-- Answers with this response. -/
  respond      : Option Response := none
  after        : List Action := []
  setExtension : Option (String × Json) := none
  setData      : Option Json := none
  clearErrors  : Bool := false

namespace ResponseStep

/-- Whether errors were reported, in a note. -/
def anyErrors (x : Exchange) : String := if x.errors.isEmpty then "false" else "true"

/-- The middleware of a step. -/
def toMiddleware (step : ResponseStep) : ResponseMiddleware := fun c => do
  whenSome step.log fun name => do
    let x ← get
    Work.note ("response " ++ name ++ " in " ++ toString x.errors.length ++ " " ++ anyErrors x)
  step.before.forM (·.run c)
  match step.respond with
  | some response => return .answer response
  | none          =>
      return .callOn c fun response => do
        step.after.forM (·.run c)
        whenSome step.log fun name => do
          let x ← get
          Work.note ("response " ++ name ++ " out " ++ toString response.errors.length ++ " "
            ++ toString x.errors.length ++ " " ++ anyErrors x)
        return {
          data := step.setData.getD response.data
          extensions := match step.setExtension with
            | some (key, value) => response.extensions.insert key value
            | none              => response.extensions
          errors := if step.clearErrors then [] else response.errors }

end ResponseStep

/-! ### Fields -/

/-- Middleware around fields. -/
structure FieldStep where
  /-- The field that the step is for; without one it is for all. -/
  field    : Option String := none
  log      : Option String := none
  /-- Answers with this leaf. -/
  value    : Option Json := none
  /-- Answers with this failure. -/
  fail     : Option String := none
  panic    : Option Panic := none
  report   : Option String := none
  /-- Writes a text in capital letters. -/
  upper    : Bool := false
  /-- Makes a list of one. -/
  wrapList : Bool := false
  /-- A leaf in the place of a failure. -/
  rescue   : Option Json := none

namespace FieldStep

/-- A result in a note. -/
def describe : FieldResult → String
  | .ok (.leaf value)  => "leaf " ++ value.render
  | .ok (.object o)    => "object " ++ o.typeName
  | .ok (.list items)  => "list " ++ toString items.length
  | .error failure     => "error " ++ failure.text

/-- An ASCII text in capital letters. -/
def capitals (text : String) : String := String.ofList (text.toList.map Char.toUpper)

/-- The result that a step hands back. -/
def change (step : FieldStep) (result : FieldResult) : FieldResult :=
  let result : FieldResult := match result with
    | .ok (.leaf (.string s)) =>
        if step.upper then .ok (.leaf (.string (capitals s))) else result
    | _                       => result
  let result : FieldResult := match result with
    | .ok value => if step.wrapList then .ok (.list [value]) else result
    | _         => result
  match result, step.rescue with
  | .error _, some value => .ok (.leaf value)
  | _,        _          => result

/-- The middleware of a step. -/
def toMiddleware (step : FieldStep) : FieldMiddleware := fun c => do
  if step.field.any (· ≠ c.name) then return .callOn c pure
  else
    let path := c.path.render
    whenSome step.log fun name => Work.note ("field " ++ name ++ " in " ++ path)
    match step.value, step.fail with
    | some value, _         => return .answer (.ok (.leaf value))
    | none,       some text => return .answer (.error (.message text))
    | none,       none      =>
        whenSome step.panic Work.panic
        whenSome step.report fun text => c.addError (.message text)
        return .callOn c fun result => do
          whenSome step.log fun name =>
            Work.note ("field " ++ name ++ " out " ++ path ++ " " ++ describe result)
          return step.change result

end FieldStep

/-! ### Extensions -/

/-- An extension. -/
structure Hooks where
  /-- The name in its notes. -/
  name           : String
  /-- The type that a schema must have. -/
  requireType    : Option String := none
  paramsError    : Option Error := none
  contextError   : Option Error := none
  /-- What becomes of the text, the operation name and the variables, if anything. -/
  query          : Option (Option String) := none
  operationName  : Option (Option String) := none
  variableValues : Option Json.Members := none
  operation      : Option OperationStep := none
  response       : Option ResponseStep := none
  field          : Option FieldStep := none

/-- The extension. -/
def Hooks.toExtension (h : Hooks) : Extension :=
  .custom
    { name := "Custom"
      validate := fun service =>
        match h.requireType with
        | some type =>
            if (service.schema.type? type).isSome then .ok ()
            else .error ("type " ++ type ++ " is missing")
        | none      => .ok ()
      onParams := fun params stats =>
        { params :=
            { params with
              query := h.query.getD params.query
              operationName := h.operationName.getD params.operationName
              variableValues := h.variableValues.getD params.variableValues }
          stats
          error := h.paramsError
          entries := [.note (h.name ++ " paramsError")] }
      onContext := fun context =>
        { context, error := h.contextError, entries := [.note (h.name ++ " contextError")] }
      operations := h.operation.map (·.toMiddleware)
      responses := h.response.map (·.toMiddleware)
      fields := h.field.map (·.toMiddleware) }

/-- A limit of complexity by the name of the operation. -/
def limitByName (standard : Nat) (limits : List (String × Nat)) (c : OperationContext) : Nat :=
  (c.operationName.bind fun name => limits.lookup name).getD standard

/-! ### Presentation -/

/-- The name of an operation in a presented error. -/
def operationLabel : Option OperationContext → String
  | none   => "none"
  | some c => c.operationName.getD "anonymous"

/-- Presents failures with a word, the operation and their text. -/
def presenter (word : String) : ErrorPresenter := fun operation path failure =>
  { message := word ++ "|" ++ operationLabel operation ++ "|" ++ failure.text, path }

/-- Makes failures of panics with a word, the operation and their text. -/
def recovery (word : String) : PanicRecovery := fun operation p =>
  let text := p.text?.getD "other"
  (.message (word ++ "|" ++ operationLabel operation ++ "|" ++ text), [])

end GraphServe.Script
