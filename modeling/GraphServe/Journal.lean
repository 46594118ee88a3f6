import GraphServe.Json.Value

/-!
# Journals

What happened while a request was served, in order: the fields that were resolved, the notes that
middleware made and the events that operators watch.
-/

namespace GraphServe

/-- How much an event matters. -/
inductive Severity where
  | error
  | warn
  | info
  | debug
  | trace
deriving DecidableEq, Repr

namespace Severity

/-- The rank of a severity: the weightiest first. -/
def rank : Severity → Nat
  | error => 0
  | warn  => 1
  | info  => 2
  | debug => 3
  | trace => 4

/-- The name of a severity. -/
def name : Severity → String
  | error => "ERROR"
  | warn  => "WARN"
  | info  => "INFO"
  | debug => "DEBUG"
  | trace => "TRACE"

end Severity

/-- Something that operators may want to know. -/
structure Event where
  severity : Severity
  message  : String
  fields   : Json.Members := []
deriving Repr

/-- An event as JSON. -/
def Event.toJson (e : Event) : Json :=
  .object ([("level", .string e.severity.name), ("message", .string e.message)] ++ e.fields)

end GraphServe
