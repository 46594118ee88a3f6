import GraphServe.Execution.Engine
import GraphServe.Extension
import GraphServe.Document.Place
import GraphServe.Validation.Document

/-!
# Executors

An executor turns parameters into operations, and operations into responses, for one service.  It
remembers documents and what its extensions remember, so that serving a request leaves another
executor behind.

* `Executor.prepare` builds the operation that parameters describe: the document is read and
  validated, or known already, one of its operations is selected and its variables are coerced.
* `Executor.dispatch` runs the middleware around operations, `Producer.produce` makes the response.
* `Executor.refuse` answers a request for which no operation was built.
-/

namespace GraphServe

open Document

/-- Turns requests into responses for one service. -/
structure Executor where
  service      : Service
  extensions   : List Extension := []
  operations   : Chain Work OperationContext ResponseHandler := []
  responses    : Chain Work ResponseContext Response := []
  fields       : Chain Work FieldContext FieldResult := []
  presentation : Presentation := .standard
  /-- The documents that were read and validated, by their texts or hashes. -/
  documents    : Cache Executable := .none

/-- The request for which no operation was built, as far as it got, and the errors met. -/
structure Refusal where
  context : OperationContext
  errors  : List Error

namespace Executor

/-! ### Setting up -/

/-- Install an extension, inside of all middleware so far. -/
def use (x : Executor) (e : Extension) : Except String (Executor × Event) := do
  e.validate x.service
  return ({ x with
      extensions := x.extensions ++ [e]
      operations := x.operations ++ e.operations.toList
      responses := x.responses ++ e.responses.toList
      fields := x.fields ++ e.fields.toList },
    { severity := .debug, message := "installed extension",
      fields := [("extension", .string e.name)] })

/-! ### Preparing operations -/

/-- Run the hooks on the parameters in order, up to the first that fails. -/
def runParamsHooks : List Extension → Params → Stats → ParamsOutcome × List Extension
  | [],        params, stats => ({ params, stats }, [])
  | e :: rest, params, stats =>
      let (outcome, e) := e.onParams params stats
      match outcome.error with
      | some _ => (outcome, e :: rest)
      | none   =>
          let (last, rest) := runParamsHooks rest outcome.params outcome.stats
          ({ last with entries := outcome.entries ++ last.entries }, e :: rest)

/-- Run the hooks on an operation in order, up to the first that fails. -/
def runContextHooks (service : Service) :
    List Extension → OperationContext → ContextOutcome × List Extension
  | [],        context => ({ context }, [])
  | e :: rest, context =>
      let (outcome, e) := e.onContext service context
      match outcome.error with
      | some _ => (outcome, e :: rest)
      | none   =>
          let (last, rest) := runContextHooks service rest outcome.context
          ({ last with entries := outcome.entries ++ last.entries }, e :: rest)

/-- The error for a text without document. -/
def missingText (extensions : Json.Members) : Error :=
  if extensions.contains Extension.PersistedQuery.key then
    .coded .persistedQueryNotSupported "persisted queries are not supported"
  else .validation "no operation provided"

/-- Errors at places of a text, or of the whole of it. -/
def located (code : Error.Code) (text : String) (found : List (String × Option Nat)) :
    List Error :=
  found.map fun (message, place) =>
    { Error.coded code message with locations := place.toList.map (locate text) }

/-- Read and validate a text. -/
def readDocument (s : Schema) (text : String) : Except (List Error) Executable :=
  match Document.read text with
  | .error faults   =>
      .error (located .parseFailed text (faults.map fun f => (f.message, some f.place)))
  | .ok definitions =>
      let isOperation : Definition → Bool
        | .operation _ => true
        | _            => false
      if definitions.any isOperation then
        (Validation.validate s definitions).mapError fun found =>
          located .validationFailed text (found.map fun f => (f.problem.message, f.place))
      else .error [.validation "no operation provided"]

/-- The key of a document: its text, or the hash that it was asked for by. -/
def documentKey (stats : Stats) (text : String) : String :=
  match stats.persisted? with
  | some p => "apq|" ++ p.hash
  | none   => text

/-- The document of a text, from the cache if it is there; what was read is kept. -/
def findDocument (x : Executor) (key text : String) :
    Except (List Error) Executable × Cache Executable × List Entry :=
  match x.documents.get key with
  | (some d, documents) =>
      (.ok d, documents, [.event { severity := .trace, message := "query cache hit" }])
  | (none,   documents) =>
      match readDocument x.service.schema text with
      | .error errors => (.error errors, documents, [])
      | .ok d         => (.ok d, documents.add key d, [])

/-- Select an operation of a document and coerce its variables.  What is known is put into the
context, also when the rest fails. -/
def selectOperation (s : Schema) (params : Params) (d : Executable) (context : OperationContext) :
    Except Refusal OperationContext :=
  let context := { context with document := some d }
  match d.select params.operationName with
  | .error e      => .error ⟨context, [.validation e.message]⟩
  | .ok operation =>
      match Variables.ofRequest s operation params.variableValues with
      | .error e      => .error ⟨context, [e]⟩
      | .ok variableValues => .ok { context with variableValues, operation := some operation }

/-- Build the operation that parameters describe.  The answer comes with the executor after it and
the entries for the journal. -/
def prepare (x : Executor) (params : Params) :
    Except Refusal OperationContext × Executor × List Entry :=
  let (hooked, extensions) := runParamsHooks x.extensions params {}
  let x := { x with extensions }
  let context := { OperationContext.ofParams params with stats := hooked.stats }
  match hooked.error with
  | some e => (.error ⟨context, [e]⟩, x, hooked.entries)
  | none   =>
      let params := hooked.params
      let context := { context with
        rawQuery := params.query.getD "", operationName := params.operationName }
      match params.query with
      | none      => (.error ⟨context, [missingText params.extensions]⟩, x, hooked.entries)
      | some text =>
          let (found, documents, entries) := x.findDocument (documentKey context.stats text) text
          let x := { x with documents }
          let entries := hooked.entries ++ entries
          match found with
          | .error errors => (.error ⟨context, errors⟩, x, entries)
          | .ok d         =>
              match selectOperation x.service.schema params d context with
              | .error refusal => (.error refusal, x, entries)
              | .ok context    =>
                  let (last, extensions) := runContextHooks x.service x.extensions context
                  let x := { x with extensions }
                  let entries := entries ++ last.entries
                  match last.error with
                  | some e => (.error ⟨last.context, [e]⟩, x, entries)
                  | none   => (.ok last.context, x, entries)

/-! ### Making responses -/

/-- Execute the selected operation. -/
def execute (x : Executor) : ResponseHandler := fun response =>
  match response.operation.document, response.operation.operation with
  | some d, some o =>
      let run (root : ObjectValue Resolved) : Work Response := do
        return { data := ← Execution.executeOperation x.service x.fields response d o root }
      match o.type, x.service.mutation with
      | .query,        _         => run x.service.query
      | .mutation,     some root => run root
      | .mutation,     none      => return .ofMessage "mutations are not supported"
      | .subscription, _         => return .ofMessage "subscriptions are not supported"
  | _,      _      => return .ofErrors [.validation "no operation provided"]

/-- Run a chain around a handler.  What was reported goes into the response only if the handler was
reached; a middleware that answers on its own gets exactly what it answered. -/
def respond (chain : Chain Work ResponseContext Response) (c : ResponseContext)
    (handler : ResponseHandler) : Work Response := do
  let flush (r : Response) : Work Response := modifyGet (·.flush r)
  let endpoint : ResponseContext → Work Response := fun c => do
    modify fun x => { x with reached := true }
    flush (← handler c)
  modify fun x => { x with reached := false }
  let response ←
    match ← Work.hold (chain.run endpoint c) with
    | .ok r    => pure r
    | .error p => pure (Response.ofErrors [← c.recover none p])
  if (← get).reached then flush response else return response

end Executor

/-- An operation that was dispatched, with what makes its response. -/
structure Producer where
  /-- The operation as it reached the innermost of the middleware. -/
  operation    : OperationContext
  handler      : ResponseHandler
  responses    : Chain Work ResponseContext Response
  presentation : Presentation

/-- Make the response. -/
def Producer.produce (p : Producer) : Work Response := do
  modify Exchange.reopen
  Executor.respond p.responses ⟨p.operation, p.presentation⟩ p.handler

namespace Executor

/-- Run the middleware around operations. -/
def dispatch (x : Executor) (context : OperationContext) : Work Producer := do
  modify fun e => { e with dispatched := none }
  let endpoint : OperationContext → Work ResponseHandler := fun context => do
    modify fun e => { e with dispatched := some context }
    return x.execute
  let handler ← x.operations.run endpoint context
  return { operation := (← get).dispatched.getD context, handler, responses := x.responses,
           presentation := x.presentation }

/-- Answer a request for which no operation was built. -/
def refuse (x : Executor) (r : Refusal) : Work Response := do
  modify Exchange.reopen
  let c : ResponseContext := ⟨r.context, x.presentation⟩
  r.errors.forM fun e => c.addError none (.error e)
  respond x.responses c fun _ => return {}

/-- The error for a panic outside of any operation, with the events to log. -/
def presentPanic (x : Executor) (p : Panic) : Error × List Event :=
  x.presentation.presentPanic none none p

end Executor

end GraphServe
