import GraphServe.Execution.Arguments
import GraphServe.Journal
import GraphServe.Resolved

/-!
# Complexity

An estimate of the work that an operation asks for, made before any of it is done.  A field costs
one more than what is selected of it, unless the service says otherwise; costs stop at the greatest
number of sixty-four bits.

* `Complexity.fieldCost` is the cost of one field.
* `Complexity.ofOperation` is the cost of an operation.  What a named fragment costs is computed
  once.
-/

namespace GraphServe.Complexity

open Document

/-- The greatest cost. -/
def maximum : Nat := Word.greatest 64

/-- The sum of two costs. -/
def add (a b : Nat) : Nat := min (a + b) maximum

/-- The cost of a field of an object type; what the service says counts unless it is less than what
is selected of the field. -/
def objectFieldCost (service : Service) (type field : String) (child : Nat)
    (arguments : Json.Members) : Nat :=
  match service.complexity type field child arguments with
  | some cost => if child ≤ cost then cost else add child 1
  | none      => add child 1

/-- The cost of a field of a type.  On an interface the most expensive of the objects that implement
it counts. -/
def fieldCost (service : Service) (type field : String) (child : Nat) (arguments : Json.Members) :
    Nat :=
  let s := service.schema
  match (s.type? type).map TypeDefinition.body with
  | some (.interface _ _) =>
      if s.types.any fun t => t.interfaces.contains type then
        ((s.implementers type).map fun t =>
          objectFieldCost service t.name field child arguments).foldl max 0
      else add child 1
  | _ => objectFieldCost service type field child arguments

/-- What is known on the way: the costs of fragments, and the events. -/
structure Progress where
  fragments : List (String × Nat) := []
  events    : List Event := []

/-- The event of a field's cost. -/
def fieldEvent (type field : String) (child cost : Nat) : Event where
  severity := .trace
  message := "field complexity"
  fields := [("parent", .string type), ("field", .string field), ("child_complexity", .int child),
    ("cost", .int cost)]

/-- Whether values of a type have selections. -/
def isComposite (s : Schema) (type : String) : Bool :=
  match s.type? type with
  | some t => t.isComposite
  | none   => false

/-- Computes the cost of a named fragment. -/
abbrev FragmentCost := String → StateM Progress Nat

mutual

/-- The cost of a selection on a type. -/
def ofSelection (service : Service) (values : Json.Members) (fragmentCost : FragmentCost)
    (type : String) : ExecutableSelection → StateM Progress Nat
  | .spread name _ _     => fragmentCost name
  | .inline on? _ _ inner =>
      ofSelections service values fragmentCost ((on?.map (·.node)).getD type) inner
  | .field head inner    => do
      let inside := head.note.type.innerName
      if inside = "__Schema" then return 0
      else
        let child ←
          if isComposite service.schema inside then
            ofSelections service values fragmentCost inside inner
          else pure 0
        let name := head.name.node
        let cost := fieldCost service type name child (Arguments.ofField head head.note values)
        modify fun p => { p with events := p.events ++ [fieldEvent type name child cost] }
        return cost

/-- The cost of selections on a type: the sum of theirs. -/
def ofSelections (service : Service) (values : Json.Members) (fragmentCost : FragmentCost)
    (type : String) : List ExecutableSelection → StateM Progress Nat
  | []            => return 0
  | first :: rest => do
      let cost ← ofSelection service values fragmentCost type first
      return add cost (← ofSelections service values fragmentCost type rest)

end

/-- The cost of a named fragment, with at most `fuel` fragments inside each other. -/
def ofFragment (service : Service) (d : Executable) (values : Json.Members) : Nat → FragmentCost
  | 0        => fun _ => return 0
  | fuel + 1 => fun name => do
      match (← get).fragments.lookup name, d.fragment? name with
      | some cost, _      => return cost
      | none,      none   => return 0
      | none,      some f =>
          let cost ←
            ofSelections service values (ofFragment service d values fuel) f.condition.node
              f.selections
          modify fun p => { p with fragments := (name, cost) :: p.fragments }
          return cost

/-- The cost of an operation, with the events of computing it. -/
def ofOperation (service : Service) (d : Executable) (o : Operation FieldDefinition)
    (values : Json.Members) : Nat × List Event :=
  let root := (service.schema.root? o.type).getD ""
  let fragment := ofFragment service d values (d.fragments.length + 1)
  let (cost, progress) := (ofSelections service values fragment root o.selections).run {}
  (cost, progress.events)

end GraphServe.Complexity
