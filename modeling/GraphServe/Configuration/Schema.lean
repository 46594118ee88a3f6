import GraphServe.Configuration.Basic

/-!
# The schema of configurations

A JSON schema that describes the settings, for editors and checkers of configuration files.

* `Configuration.schema` is the schema.
-/

namespace GraphServe.Configuration

/-- The types of settings in a schema. -/
inductive SettingType where
  | bool
  | text (optional : Bool)
  /-- A natural number in a format. -/
  | natural (format : String) (optional : Bool)

/-- What a schema says about a type. -/
def SettingType.members : SettingType → Json.Members
  | bool                    => [("type", .string "boolean")]
  | text optional           => ("type", .string "string") :: nullable optional
  | natural format optional =>
      [("type", .string "integer"), ("format", .string format),
       ("minimum", .float (Double.zero false))] ++ nullable optional
where
  /-- That there may be no value. -/
  nullable (optional : Bool) : Json.Members := if optional then [("nullable", .bool true)] else []

/-- What a schema says about a setting. -/
structure Setting where
  name         : String
  description? : Option String := none
  type         : SettingType

/-- A section of settings. -/
structure Section where
  name        : String
  description : String
  settings    : List Setting

/-- The sections of a configuration. -/
def sections : List Section :=
  [{ name := "query_cache", description := "Parsed document cache"
     settings :=
      [{ name := "capacity", type := .natural "uint" false
         description? := some "Maximum number of parsed documents kept; 0 disables the cache" }] },
   { name := "persisted_queries", description := "Automatic persisted queries"
     settings :=
      [{ name := "enabled", type := .bool },
       { name := "capacity", type := .natural "uint" false
         description? := some "Maximum number of hash to query mappings kept" }] },
   { name := "complexity", description := "Operation complexity limits"
     settings :=
      [{ name := "limit", type := .natural "uint64" true
         description? := some "Reject operations whose complexity is above this value" }] },
   { name := "introspection", description := "Schema introspection"
     settings := [{ name := "enabled", type := .bool }] },
   { name := "multipart", description := "`multipart/form-data` uploads"
     settings :=
      [{ name := "max_upload_size", type := .text false
         description? := some "Maximum size of a whole multipart body" },
       { name := "max_memory", type := .text false
         description? := some "Files larger than this are written to a temporary file" },
       { name := "temp_dir", type := .text true
         description? := some
          "Directory for those files, the system temporary directory when unset" }] },
   { name := "apollo_tracing", description := "Apollo tracing response extension"
     settings := [{ name := "enabled", type := .bool }] }]

/-- A member of a value, `null` when it has none. -/
def memberOf (value : Json) (key : String) : Json := (value.field? key).getD .null

/-- What a schema says about an object with certain members and no others. -/
def closedObject (properties : Json.Members) : Json.Members :=
  [("type", .string "object"), ("properties", .object properties),
   ("additionalProperties", .bool false)]

/-- The schema of a setting with a default. -/
def Setting.schema (s : Setting) (default : Json) : Json :=
  .object ((s.description?.toList.map fun d => ("description", Json.string d))
    ++ ("default", default) :: s.type.members)

/-- The schema of a section with defaults. -/
def Section.schema (s : Section) (defaults : Json) : Json :=
  .object (("description", .string s.description) :: ("default", defaults)
    :: closedObject (s.settings.map fun x => (x.name, x.schema (memberOf defaults x.name))))

/-- The schema of configurations. -/
def schema : Json :=
  let defaults := ({} : Configuration).toJson
  .object (("$schema", .string "http://json-schema.org/draft-07/schema#")
    :: ("title", .string "Configuration")
    :: ("description", .string "The configuration of a [`Server`](crate::Server).")
    :: closedObject (sections.map fun s => (s.name, s.schema (memberOf defaults s.name))))

end GraphServe.Configuration
