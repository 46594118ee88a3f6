import GraphServe.Executor
import GraphServe.Http.Message

/-!
# Serving one request

Serving a request changes the executor, which remembers documents, and writes a journal; it may
panic.

* `Serving` is a stage with these effects.
* `Serving.execute` turns parameters into the HTTP response.
-/

namespace GraphServe

/-- What serving changes. -/
structure Serving.State where
  executor : Executor
  journal  : List Entry := []

/-- A stage of serving a request. -/
abbrev Serving := ExceptT Panic (StateM Serving.State)

namespace Serving

/-- Put events into the journal. -/
def log (events : List Event) : Serving Unit :=
  modify fun s => { s with journal := s.journal ++ events.map .event }

/-- Build the operation that parameters describe. -/
def prepare (params : Params) : Serving (Except Refusal OperationContext) := do
  let s ← get
  let (outcome, executor, entries) := s.executor.prepare params
  set ({ executor, journal := s.journal ++ entries } : State)
  return outcome

/-- Do the work of a response; the values that its stages share are those of an operation. -/
def work {α : Type} (c : OperationContext) (stage : Executor → Work α) : Serving α := do
  let s ← get
  let (outcome, x) := (stage s.executor).run { context := c.context, journal := s.journal }
  set { s with journal := x.journal }
  match outcome with
  | .ok a        => return a
  | .error panic => throw panic

/-- Run an operation. -/
def respond (c : OperationContext) : Serving Http.Response := do
  let response ← work c fun x => do (← x.dispatch c).produce
  return .json 200 response

/-- Answer a request for which no operation was built. -/
def refuse (r : Refusal) : Serving Http.Response := do
  let response ← work r.context fun x => x.refuse r
  return .json (Error.status r.errors) response

/-- Build an operation and run it. -/
def execute (params : Params) : Serving Http.Response := do
  match ← prepare params with
  | .ok c    => respond c
  | .error r => refuse r

end Serving

end GraphServe
