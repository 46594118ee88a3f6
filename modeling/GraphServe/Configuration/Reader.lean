import GraphServe.Configuration.Basic
import GraphServe.Yaml.Decode

/-!
# Reading configurations

A configuration is written in YAML.  Sections and settings may be left out, and keys that are not
known are refused.

* `Configuration.ofYaml` reads and validates a configuration.
-/

namespace GraphServe.Configuration

open Yaml (Decoder)

/-- Why a configuration cannot be used. -/
inductive ReadFault where
  | unreadable (refusal : Yaml.Refusal)
  | invalid (fault : Fault)
deriving DecidableEq, Repr

/-- The wording of a fault. -/
def ReadFault.message : ReadFault → String
  | unreadable refusal => "could not deserialize configuration: " ++ refusal.message
  | invalid fault      => fault.message

/-- A size, as a number of bytes or as a text with a unit. -/
def byteSize : Decoder ByteSize :=
  Decoder.atom expected fun
    | .int n  =>
        if Word.isUnsigned 64 n then .ok ⟨n.toNat⟩
        else if Word.isSigned 64 n then
          .error (Text.invalidValue (Yaml.Atom.intName n) "integer overflow")
        else .error (Decoder.rejectAtom expected (.int n))
    | .text s =>
        match ByteSize.read? s with
        | some size => .ok size
        | none      =>
            .error (Text.invalidValue (Yaml.Atom.name (.text s)) "parsable string")
    | a       => .error (Decoder.rejectAtom expected a)
where
  /-- What a size is called. -/
  expected : String := "an integer or string"

/-- The settings of the cache of documents. -/
def queryCacheRecord : Decoder.Record QueryCache where
  name := "QueryCacheConfig"
  members :=
    [("capacity", fun c d path node =>
        return { c with capacity := ← Decoder.unsigned "usize" d path node })]

/-- The settings of persisted queries. -/
def persistedQueriesRecord : Decoder.Record PersistedQueries where
  name := "PersistedQueriesConfig"
  members :=
    [("enabled", fun c d path node => return { c with enabled := ← Decoder.bool d path node }),
     ("capacity", fun c d path node =>
        return { c with capacity := ← Decoder.unsigned "usize" d path node })]

/-- The settings of the limit on complexity. -/
def complexityRecord : Decoder.Record ComplexityLimit where
  name := "ComplexityConfig"
  members :=
    [("limit", fun c d path node =>
        return { c with limit := ← Decoder.option (Decoder.unsigned "u64") d path node })]

/-- The settings of introspection. -/
def introspectionRecord : Decoder.Record Introspection where
  name := "IntrospectionConfig"
  members :=
    [("enabled", fun c d path node => return { c with enabled := ← Decoder.bool d path node })]

/-- The settings of forms. -/
def multipartRecord : Decoder.Record Multipart where
  name := "MultipartConfig"
  members :=
    [("max_upload_size", fun c d path node =>
        return { c with maxUploadSize := ← byteSize d path node }),
     ("max_memory", fun c d path node => return { c with maxMemory := ← byteSize d path node }),
     ("temp_dir", fun c d path node =>
        return { c with tempDir := ← Decoder.option (Decoder.text "path string") d path node })]

/-- The settings of the trace. -/
def tracingRecord : Decoder.Record Tracing where
  name := "ApolloTracingConfig"
  members :=
    [("enabled", fun c d path node => return { c with enabled := ← Decoder.bool d path node })]

/-- The sections of a configuration. -/
def rootRecord : Decoder.Record Configuration where
  name := "Configuration"
  members :=
    [("query_cache", fun c d path node =>
        return { c with queryCache := ← Decoder.record queryCacheRecord {} d path node }),
     ("persisted_queries", fun c d path node =>
        return { c with
          persistedQueries := ← Decoder.record persistedQueriesRecord {} d path node }),
     ("complexity", fun c d path node =>
        return { c with complexity := ← Decoder.record complexityRecord {} d path node }),
     ("introspection", fun c d path node =>
        return { c with introspection := ← Decoder.record introspectionRecord {} d path node }),
     ("multipart", fun c d path node =>
        return { c with multipart := ← Decoder.record multipartRecord {} d path node }),
     ("apollo_tracing", fun c d path node =>
        return { c with tracing := ← Decoder.record tracingRecord {} d path node })]

/-- Read a configuration without validating it. -/
def decode (text : String) : Except Yaml.Refusal Configuration :=
  Decoder.run (Decoder.record rootRecord {}) text

/-- Read a configuration. -/
def ofYaml (text : String) : Except ReadFault Configuration := do
  let c ← (decode text).mapError .unreadable
  c.validate.mapError .invalid
  return c

end GraphServe.Configuration
