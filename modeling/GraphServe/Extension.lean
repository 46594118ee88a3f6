import GraphServe.Cache
import GraphServe.Complexity
import GraphServe.Digest.Sha256
import GraphServe.Resolved

/-!
# Extensions

Extensions take part in building operations and in making responses.  A hook on the parameters runs
before the document is read, a hook on the operation once it is selected; middleware stands around
the dispatch of operations, the making of responses and the resolution of fields.

* `Extension` lists the extensions: four that come with the library, and others by their hooks.
* `Extension.onParams` and `Extension.onContext` are the hooks.
-/

namespace GraphServe

open Document

/-- Makes the response of an operation. -/
abbrev ResponseHandler := ResponseContext → Work Response

/-- Stands around the dispatch of operations. -/
abbrev OperationMiddleware := Middleware Work OperationContext ResponseHandler

/-- Stands around the making of responses. -/
abbrev ResponseMiddleware := Middleware Work ResponseContext Response

/-- What a hook on the parameters leaves behind. -/
structure ParamsOutcome where
  params  : Params
  stats   : Stats
  error   : Option Error := none
  entries : List Entry := []

/-- What a hook on an operation leaves behind. -/
structure ContextOutcome where
  context : OperationContext
  error   : Option Error := none
  entries : List Entry := []

/-- The hooks of an extension that does not come with the library. -/
structure Extension.Hooks where
  name       : String
  validate   : Service → Except String Unit := fun _ => .ok ()
  onParams   : Params → Stats → ParamsOutcome := fun params stats => { params, stats }
  onContext  : OperationContext → ContextOutcome := fun context => { context }
  operations : Option OperationMiddleware := none
  responses  : Option ResponseMiddleware := none
  fields     : Option FieldMiddleware := none

/-- An extension. -/
inductive Extension where
  /-- Lets operations ask for the schema. -/
  | introspection
  /-- Adds a trace of the resolvers to responses. -/
  | tracing
  /-- Lets clients name a document by its hash once it was sent. -/
  | persistedQueries (store : Cache String)
  /-- Refuses operations that ask for too much. -/
  | complexityLimit (limit : OperationContext → Nat)
  | custom (hooks : Extension.Hooks)

namespace Extension

/-- The name of an extension. -/
def name : Extension → String
  | introspection      => "Introspection"
  | tracing            => "ApolloTracing"
  | persistedQueries _ => "AutomaticPersistedQuery"
  | complexityLimit _  => "ComplexityLimit"
  | custom hooks       => hooks.name

/-- Whether an extension can work with a service. -/
def validate (service : Service) : Extension → Except String Unit
  | custom hooks => hooks.validate service
  | _            => .ok ()

/-! ### Persisted queries -/

/-- What a request says of a persisted query. -/
structure PersistedQuery where
  version : Int
  hash    : String
deriving DecidableEq, Repr

namespace PersistedQuery

/-- The key of a request's extensions that names a persisted query. -/
def key : String := "persistedQuery"

/-- An integer of sixty-four bits with a sign. -/
def version? : Json → Option Int
  | .int n => if Word.isSigned 64 n then some n else none
  | _      => none

/-- A persisted query as JSON writes it: as an object, or as a list of version and hash. -/
def ofJson? : Json → Option PersistedQuery
  | .object members      => do
      let version ← version? (← members.lookup "version")
      let hash ← (← members.lookup "sha256Hash").string?
      return ⟨version, hash⟩
  | .list [version, hash] => do return ⟨← version? version, ← hash.string?⟩
  | _                     => none

/-- Whether a text has a hash; the case of the digits does not count. -/
def isHashOf (hash text : String) : Bool := Headers.lower hash = Headers.lower (Sha256.hex text)

end PersistedQuery

/-- Event of a persisted query. -/
def persistedEvent (severity : Severity) (message : String) : Entry :=
  .event { severity, message := "apq: " ++ message }

/-- Find the text for a persisted query, or check the one that came with it. -/
def persistParams (store : Cache String) (params : Params) (stats : Stats) :
    ParamsOutcome × Cache String :=
  let refuse (e : Error) (entries : List Entry := []) : ParamsOutcome :=
    { params, stats, error := some e, entries }
  match params.extensions.get? PersistedQuery.key with
  | none       => ({ params, stats }, store)
  | some value =>
      match PersistedQuery.ofJson? value with
      | none   => (refuse { message := "invalid APQ extension data" }, store)
      | some q =>
          if q.version ≠ 1 then (refuse { message := "unsupported APQ version" }, store)
          else
            match params.query with
            | some text =>
                if PersistedQuery.isHashOf q.hash text then
                  ({ params, stats := { stats with persisted? := some ⟨q.hash, true⟩ } }, store)
                else
                  let event :=
                    persistedEvent .warn "graphql request doesn't match provided sha256Hash"
                  (refuse { message := "provided sha does not match query" } [event], store)
            | none      =>
                match store.get q.hash with
                | (some text, store) =>
                    ({ params := { params with query := some text }
                       stats := { stats with persisted? := some ⟨q.hash, false⟩ }
                       entries := [persistedEvent .trace "cache hit"] }, store)
                | (none, store)      =>
                    (refuse (.coded .persistedQueryNotFound "PersistedQueryNotFound")
                      [persistedEvent .trace "cache miss"], store)

/-- Keep the text of a persisted query that was sent, now that it is known to be good. -/
def persistContext (store : Cache String) (context : OperationContext) :
    ContextOutcome × Cache String :=
  match context.stats.persisted? with
  | some ⟨hash, true⟩ =>
      ({ context, entries := [persistedEvent .trace "cache insert"] },
        store.add hash context.rawQuery)
  | _                 => ({ context }, store)

/-! ### Complexity limits -/

/-- The operation name whose complexity counts as nothing. -/
def introspectionName : String := "IntrospectionQuery"

/-- Refuse an operation above a limit. -/
def limitComplexity (limit : OperationContext → Nat) (service : Service)
    (context : OperationContext) : ContextOutcome :=
  match context.document, context.operation with
  | some d, some o =>
      let bound := limit context
      let (complexity, events) :=
        if o.name? = some introspectionName then (0, [])
        else Complexity.ofOperation service d o context.variableValues
      let event : Event :=
        { severity := .debug, message := "operation complexity",
          fields := [("complexity", .int complexity), ("complexity_limit", .int bound)] }
      { context :=
          { context with stats := { context.stats with complexity? := some ⟨complexity, bound⟩ } }
        error :=
          if complexity ≤ bound then none
          else some <| .coded .complexityLimitExceeded <|
            "operation has complexity " ++ toString complexity
              ++ ", which exceeds the limit of " ++ toString bound
        entries := (events ++ [event]).map .event }
  | _,      _      => { context }

/-! ### Tracing -/

/-- The trace as an extension of a response.  The library has no clock: all times are zero. -/
def traceJson (resolvers : List ResolverTrace) : Json :=
  let time : Json := .string "0000-00-00T00:00:00.000000000Z"
  let span : Json.Members := [("startOffset", .int 0), ("duration", .int 0)]
  .object
    [("version", .int 1), ("startTime", time), ("endTime", time), ("duration", .int 0),
     ("parsing", .object span), ("validation", .object span),
     ("execution", .object [("resolvers", .list <| resolvers.map fun r =>
        .object <|
          [("path", r.path.toJson), ("parentType", .string r.parentType),
           ("fieldName", .string r.fieldName), ("returnType", .string r.returnType)] ++ span)])]

/-- Keep a trace while a response is made, and add it to the response. -/
def traceResponses : ResponseMiddleware := fun c => do
  modify fun x => { x with trace? := some [] }
  return .callOn c fun response => do
    let resolvers := ((← get).trace?).getD []
    modify fun x => { x with trace? := some [] }
    return { response with
      extensions := response.extensions.insert "tracing" (traceJson resolvers) }

/-- Add a field to the trace once it is resolved. -/
def traceFields : FieldMiddleware := fun c => do
  match (← get).trace? with
  | none   => return .callOn c pure
  | some _ => return .callOn c fun result => do
      let entry : ResolverTrace := ⟨c.path, c.object, c.name, c.returnType.render⟩
      modify fun x => { x with trace? := x.trace?.map (· ++ [entry]) }
      return result

/-! ### Hooks -/

/-- The hook on the parameters, and the extension after it. -/
def onParams (params : Params) (stats : Stats) : Extension → ParamsOutcome × Extension
  | persistedQueries store =>
      let (outcome, store) := persistParams store params stats
      (outcome, persistedQueries store)
  | custom hooks           => (hooks.onParams params stats, custom hooks)
  | other                  => ({ params, stats }, other)

/-- The hook on an operation, and the extension after it. -/
def onContext (service : Service) (context : OperationContext) :
    Extension → ContextOutcome × Extension
  | introspection          => ({ context := { context with disableIntrospection := false } },
                                introspection)
  | persistedQueries store =>
      let (outcome, store) := persistContext store context
      (outcome, persistedQueries store)
  | complexityLimit limit  => (limitComplexity limit service context, complexityLimit limit)
  | custom hooks           => (hooks.onContext context, custom hooks)
  | tracing                => ({ context }, tracing)

/-- The middleware around operations. -/
def operations : Extension → Option OperationMiddleware
  | custom hooks => hooks.operations
  | _            => none

/-- The middleware around responses. -/
def responses : Extension → Option ResponseMiddleware
  | custom hooks => hooks.responses
  | tracing      => some traceResponses
  | _            => none

/-- The middleware around fields. -/
def fields : Extension → Option FieldMiddleware
  | custom hooks => hooks.fields
  | tracing      => some traceFields
  | _            => none

end Extension

end GraphServe
