import GraphServe.Cache
import GraphServe.Configuration.ByteSize
import GraphServe.Json.Value

/-!
# Configurations

The settings of a server, in sections.  Every setting has a default.

* `Configuration.validate` checks what the type of a setting cannot say.
* `Configuration.toJson` writes a configuration.
-/

namespace GraphServe

namespace Configuration

/-- The cache of documents. -/
structure QueryCache where
  /-- The number of documents kept; zero turns the cache off. -/
  capacity : Nat := defaultDocumentCapacity
deriving DecidableEq, Repr

/-- Persisted queries. -/
structure PersistedQueries where
  enabled  : Bool := true
  capacity : Nat := defaultPersistedCapacity
deriving DecidableEq, Repr

/-- The limit on the complexity of operations. -/
structure ComplexityLimit where
  limit : Option Nat := none
deriving DecidableEq, Repr

/-- Introspection of the schema. -/
structure Introspection where
  enabled : Bool := true
deriving DecidableEq, Repr

/-- Forms with files. -/
structure Multipart where
  maxUploadSize : ByteSize := .mebibytes 32
  maxMemory     : ByteSize := .mebibytes 32
  /-- The directory for files that are not held in memory, that of the system when there is none. -/
  tempDir       : Option String := none
deriving DecidableEq, Repr

/-- The trace of resolvers in responses. -/
structure Tracing where
  enabled : Bool := false
deriving DecidableEq, Repr

end Configuration

/-- The settings of a server. -/
structure Configuration where
  queryCache       : Configuration.QueryCache := {}
  persistedQueries : Configuration.PersistedQueries := {}
  complexity       : Configuration.ComplexityLimit := {}
  introspection    : Configuration.Introspection := {}
  multipart        : Configuration.Multipart := {}
  tracing          : Configuration.Tracing := {}
deriving DecidableEq, Repr

namespace Configuration

/-- A setting that is not allowed, and why. -/
structure Fault where
  setting : String
  reason  : String
deriving DecidableEq, Repr

/-- The wording of a fault. -/
def Fault.message (f : Fault) : String := f.setting ++ ": " ++ f.reason

/-- Check what the type of a setting cannot say: persisted queries need room, and a file in memory
has to be allowed in a form. -/
def validate (c : Configuration) : Except Fault Unit :=
  if c.persistedQueries.enabled ∧ c.persistedQueries.capacity = 0 then
    .error ⟨"persisted_queries.capacity",
      "must be greater than 0 when persisted queries are enabled"⟩
  else if c.multipart.maxUploadSize.bytes < c.multipart.maxMemory.bytes then
    .error ⟨"multipart.max_memory",
      c.multipart.maxMemory.text ++ " is larger than multipart.max_upload_size "
        ++ c.multipart.maxUploadSize.text⟩
  else .ok ()

/-- A number, or `null`. -/
def optionalNumber : Option Nat → Json
  | some n => .int n
  | none   => .null

/-- A configuration as JSON. -/
def toJson (c : Configuration) : Json :=
  .object
    [("query_cache", .object [("capacity", .int c.queryCache.capacity)]),
     ("persisted_queries", .object
       [("enabled", .bool c.persistedQueries.enabled),
        ("capacity", .int c.persistedQueries.capacity)]),
     ("complexity", .object [("limit", optionalNumber c.complexity.limit)]),
     ("introspection", .object [("enabled", .bool c.introspection.enabled)]),
     ("multipart", .object
       [("max_upload_size", .string c.multipart.maxUploadSize.text),
        ("max_memory", .string c.multipart.maxMemory.text),
        ("temp_dir", Json.ofString? c.multipart.tempDir)]),
     ("apollo_tracing", .object [("enabled", .bool c.tracing.enabled)])]

end Configuration

end GraphServe
