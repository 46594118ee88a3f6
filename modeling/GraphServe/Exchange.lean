import GraphServe.Journal
import GraphServe.Operation
import GraphServe.Response

/-!
# Exchanges

What the stages of one request read and write while its response is made: the errors reported so
far, the extensions of the response, the shared values and the journal.  A stage may panic; what it
wrote before stays.

* `Work` is a stage with these effects.
* `ResponseContext.addError` reports an error, `ResponseContext.recover` presents a panic.
* `Exchange.flush` moves into a response what was reported and not yet moved.
-/

namespace GraphServe

/-- What a panic carries. -/
inductive Panic where
  | text (message : String)
  | other
deriving DecidableEq, Repr

/-- The text of a panic, if it has one. -/
def Panic.text? : Panic → Option String
  | text message => some message
  | other        => none

/-- How a stage fails in good order: with a text, or with an error as clients see it. -/
inductive Failure where
  | message (text : String)
  | error (error : Error)
deriving Inhabited, Repr

/-- The text of a failure. -/
def Failure.text : Failure → String
  | message text => text
  | error e      => e.message

/-- An entry of a journal. -/
inductive Entry where
  /-- A field was resolved; `computed` unless it was read from a stored value. -/
  | call (path : Path) (computed : Bool)
  | note (text : String)
  | event (event : Event)
deriving Repr

/-- The entry of a resolver's run in a trace. -/
structure ResolverTrace where
  path       : Path
  parentType : String
  fieldName  : String
  returnType : String
deriving Repr

/-- What is shared while a response is made. -/
structure Exchange where
  /-- The values that the stages of the request share. -/
  context    : Context := {}
  /-- The trace of resolvers, if one is kept. -/
  trace?     : Option (List ResolverTrace) := none
  /-- The errors reported, in order. -/
  errors     : List Error := []
  /-- How many of the errors are in the response already. -/
  flushed    : Nat := 0
  /-- The extensions registered for the response. -/
  extensions : Json.Members := []
  /-- The operation as it reached the innermost of the middleware around operations. -/
  dispatched : Option OperationContext := none
  /-- Whether the handler of the response was reached. -/
  reached    : Bool := false
  journal    : List Entry := []
deriving Inhabited

/-- A stage of a request, which may panic. -/
abbrev Work := ExceptT Panic (StateM Exchange)

namespace Work

variable {α : Type}

/-- Panic. -/
def panic (p : Panic) : Work α := throw p

/-- Run a stage and hold its panic. -/
def hold (work : Work α) : Work (Except Panic α) := fun x =>
  let (outcome, x) := work x
  (.ok outcome, x)

/-- Put an entry into the journal. -/
def record (entry : Entry) : Work Unit :=
  modify fun x => { x with journal := x.journal ++ [entry] }

/-- Make a note. -/
def note (text : String) : Work Unit := record (.note text)

/-- Put events into the journal. -/
def events (events : List Event) : Work Unit :=
  modify fun x => { x with journal := x.journal ++ events.map .event }

end Work

namespace Exchange

/-- Before any error was reported. -/
def reopen (x : Exchange) : Exchange := { x with errors := [], flushed := 0, extensions := [] }

/-- Append an error that is as clients shall see it. -/
def push (x : Exchange) (e : Error) : Exchange := { x with errors := x.errors ++ [e] }

/-- Move what was reported into a response: the errors not yet moved, and the extensions under keys
that the response lacks. -/
def flush (x : Exchange) (r : Response) : Response × Exchange :=
  ({ r with
      errors := r.errors ++ x.errors.drop x.flushed
      extensions := x.extensions.foldl (fun m (k, v) => m.insertNew k v) r.extensions },
    { x with flushed := x.errors.length })

end Exchange

/-! ### Presenting -/

/-- Turns a failure into the error that clients see; the operation is missing when none was read. -/
abbrev ErrorPresenter := Option OperationContext → Option Path → Failure → Error

/-- Turns a panic into a failure, with the events to log. -/
abbrev PanicRecovery := Option OperationContext → Panic → Failure × List Event

/-- How failures and panics are presented. -/
structure Presentation where
  present : ErrorPresenter
  recover : PanicRecovery

namespace Presentation

/-- Errors stay as they are but for a path where they have none, other failures give their text. -/
def presentAsIs : ErrorPresenter := fun _ path failure =>
  match failure with
  | .error e   => e.orPath path
  | .message t => ({ message := t } : Error).orPath path

/-- A panic is logged and hidden behind a general message. -/
def hidePanic : PanicRecovery := fun operation p =>
  let name := (operation.bind (·.operationName)).toList.map fun n =>
    ("operation_name", Json.string n)
  let text := p.text?.getD "unknown panic payload"
  (.message "internal system error",
    [{ severity := .error, message := "recovered from a panic",
       fields := [("panic", .string text)] ++ name }])

/-- The presentation of choice unless another is set. -/
def standard : Presentation := ⟨presentAsIs, hidePanic⟩

/-- The error for a panic, with the events to log. -/
def presentPanic (p : Presentation) (operation : Option OperationContext) (path : Option Path)
    (panic : Panic) : Error × List Event :=
  let (failure, events) := p.recover operation panic
  (p.present operation path failure, events)

end Presentation

/-- The operation that a response is made for, and how its failures are presented. -/
structure ResponseContext where
  operation    : OperationContext
  presentation : Presentation := .standard

namespace ResponseContext

/-- Report a failure. -/
def addError (c : ResponseContext) (path : Option Path) (failure : Failure) : Work Unit :=
  modify (·.push (c.presentation.present (some c.operation) path failure))

/-- The error for a panic. -/
def recover (c : ResponseContext) (path : Option Path) (panic : Panic) : Work Error := do
  let (e, logged) := c.presentation.presentPanic (some c.operation) path panic
  Work.events logged
  return e

/-- Register an extension of the response. -/
def register (_ : ResponseContext) (key : String) (value : Json) : Work Unit :=
  modify fun x => { x with extensions := x.extensions.insert key value }

end ResponseContext

end GraphServe
