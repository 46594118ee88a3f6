import GraphServe.Configuration.Basic
import GraphServe.Http.Route
import GraphServe.Transport

/-!
# Servers

A server answers HTTP requests for one service: a request goes to the first of its transports that
supports it.

* `Server.serve` answers a request, `Server.route` one that came to a router.
* `Server.standard` and `Server.ofConfiguration` set up servers.
-/

namespace GraphServe

/-- Answers HTTP requests for one service. -/
structure Server where
  transports : List Transport := []
  executor   : Executor

/-- Why a server cannot be set up. -/
inductive ServerFault where
  | configuration (fault : Configuration.Fault)
  | extension (name cause : String)
deriving DecidableEq, Repr

/-- The wording of a fault. -/
def ServerFault.message : ServerFault → String
  | configuration fault  => "invalid configuration: " ++ fault.message
  | extension name cause => "could not install extension " ++ name ++ ": " ++ cause

namespace Server

/-! ### Setting up -/

/-- A server without transports and extensions. -/
def new (service : Service) : Server := { executor := { service } }

/-- Install an extension; the events are those so far. -/
def use (e : Extension) (x : Server × List Event) : Except ServerFault (Server × List Event) := do
  let (server, events) := x
  let (executor, event) ← (server.executor.use e).mapError (.extension e.name)
  return ({ server with executor }, events ++ [event])

/-- Install extensions in order. -/
def useAll (extensions : List Extension) (server : Server) :
    Except ServerFault (Server × List Event) :=
  extensions.foldlM (fun x e => use e x) (server, [])

/-- The transports that come with the library. -/
def standardTransports (settings : UploadSettings) : List Transport :=
  [.options, .get, .post, .form settings]

/-- A server with all transports, a document cache, introspection and persisted queries. -/
def standard (service : Service) : Except ServerFault (Server × List Event) :=
  useAll [.introspection, .persistedQueries (.bounded defaultPersistedCapacity)]
    { transports := standardTransports {}
      executor := { service, documents := .bounded defaultDocumentCapacity } }

/-- How forms are read by a configuration. -/
def uploadSettings (c : Configuration.Multipart) (hasDisk : Option String → Bool) :
    UploadSettings where
  maxUploadSize := c.maxUploadSize.bytes
  maxMemory := c.maxMemory.bytes
  hasDisk := hasDisk c.tempDir

/-- The extensions that a configuration asks for. -/
def extensionsOf (c : Configuration) : List Extension :=
  (if c.introspection.enabled then [.introspection] else [])
    ++ (if c.persistedQueries.enabled then
          [.persistedQueries (.bounded c.persistedQueries.capacity)] else [])
    ++ (c.complexity.limit.toList.map fun limit => .complexityLimit fun _ => limit)
    ++ (if c.tracing.enabled then [.tracing] else [])

/-- A server set up by a configuration.  `hasDisk` tells in which directories files can be put. -/
def ofConfiguration (service : Service) (c : Configuration) (hasDisk : Option String → Bool) :
    Except ServerFault (Server × List Event) := do
  c.validate.mapError .configuration
  useAll (extensionsOf c)
    { transports := standardTransports (uploadSettings c.multipart hasDisk)
      executor := { service, documents := .bounded c.queryCache.capacity } }

/-! ### Serving -/

/-- Answer a request, with the server after it and the journal. -/
def serve (s : Server) (r : Http.Request) : Http.Response × Server × List Entry :=
  match s.transports.find? (·.supports r) with
  | none           =>
      (.error 400 "transport not supported", s,
        [.event { severity := .warn, message := "no transport supports the request",
                  fields := [("method", .string r.method)] }])
  | some transport =>
      let (outcome, after) := (transport.handle r).run { executor := s.executor }
      let s := { s with executor := after.executor }
      match outcome with
      | .ok response => (response, s, after.journal)
      | .error panic =>
          let (e, events) := after.executor.presentPanic panic
          (.json 422 (.ofErrors [e]), s, after.journal ++ events.map .event)

/-! ### Routing -/

/-- Answer a request that came to a router with one route: what goes elsewhere is not found, and the
answer to `HEAD` has no body. -/
def route (s : Server) (path : String) (r : Http.Request) : Http.Response × Server × List Entry :=
  if (Http.Route.read path).fits r.target.path.toList then
    let (response, s, journal) := s.serve r
    (if r.method = "HEAD" then { response with body := "" } else response, s, journal)
  else ({ status := 404 }, s, [])

end Server

end GraphServe
