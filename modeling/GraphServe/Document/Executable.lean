import GraphServe.Schema.Basic
import GraphServe.Validation.Diagnostic

/-!
# Executable documents

The operations and fragments of a document with each field's definition attached.  What a schema
does not know is left out and reported: a field that its type lacks, selections on a scalar or
enum, fragments on types there are none of, and operations without a root type.

* `Executable` is such a document, `Executable.resolve` makes it.
* `Executable.select` picks the operation to run.
* `Executable.reachable` are the fragments that selections reach, `Executable.rootSelections` are
  selections with their fragments expanded, and `Executable.isWithin` bounds how deep they nest.
-/

namespace GraphServe.Document

open Validation

/-- A selection whose fields have their definitions. -/
abbrev ExecutableSelection := Selection FieldDefinition

/-- Operations and fragments whose fields have their definitions, the named ones in order. -/
structure Executable where
  anonymous  : Option (Operation FieldDefinition) := none
  operations : List (String × Operation FieldDefinition) := []
  fragments  : List (String × Fragment FieldDefinition) := []
deriving Inhabited

namespace Executable

/-- The fragment of a name. -/
def fragment? (d : Executable) (name : String) : Option (Fragment FieldDefinition) :=
  d.fragments.lookup name

/-- The operations, the anonymous one first. -/
def allOperations (d : Executable) : List (Operation FieldDefinition) :=
  d.anonymous.toList ++ d.operations.map (·.2)

/-! ### Attaching definitions -/

/-- What is wrong with selecting from a field of a type. -/
def leafProblem? (s : Schema) (type : String) (selections : List (Selection Unit)) :
    Option Problem :=
  if selections.isEmpty then none
  else
    match s.type? type with
    | some ⟨_, _, _, .scalar⟩ => some (.selectionOnScalar type)
    | some ⟨_, _, _, .enum _⟩ => some (.selectionOnEnum type)
    | _                       => none

mutual

/-- A selection on a type with the definitions of its fields, unless it is left out, and what is
wrong with it. -/
def resolveSelection (s : Schema) (parent : Option TypeDefinition) :
    Selection Unit → Option ExecutableSelection × List Diagnostic
  | .spread fragment ds place => (some (.spread fragment ds place), [])
  | .inline none ds place inner =>
      let (inner, found) := resolveSelections s parent inner
      (some (.inline none ds place inner), found)
  | .inline (some condition) ds place inner =>
      match s.type? condition.node with
      | none   => (none, [⟨.undefinedInlineCondition condition.node, condition.place⟩])
      | some t =>
          let (inner, found) := resolveSelections s (some t) inner
          (some (.inline (some condition) ds place inner), found)
  | .field head inner =>
      match parent with
      | none   => (none, [])
      | some t =>
          match s.field? t head.name.node with
          | none => (none, [⟨.undefinedField t.name head.name.node, head.name.place⟩])
          | some definition =>
              match leafProblem? s definition.type.innerName inner with
              | some problem => (none, [⟨problem, head.place⟩])
              | none         =>
                  let (inner, found) :=
                    resolveSelections s (s.type? definition.type.innerName) inner
                  let head : FieldHead FieldDefinition :=
                    { alias? := head.alias?, name := head.name, arguments := head.arguments,
                      directives := head.directives, place := head.place, note := definition }
                  (some (.field head inner), found)

/-- Selections on a type with the definitions of their fields, and what is wrong with them. -/
def resolveSelections (s : Schema) (parent : Option TypeDefinition) :
    List (Selection Unit) → List ExecutableSelection × List Diagnostic
  | []           => ([], [])
  | first :: rest =>
      let (first, found) := resolveSelection s parent first
      let (rest, more) := resolveSelections s parent rest
      (first.toList ++ rest, found ++ more)

end

/-- An operation with the definitions of its fields, if it has a root type. -/
def resolveOperation (s : Schema) (o : Operation Unit) :
    Option (Operation FieldDefinition) × List Diagnostic :=
  match s.root? o.type with
  | none      => (none, [⟨.undefinedRoot o.type, o.place⟩])
  | some root =>
      let (selections, found) := resolveSelections s (s.type? root) o.selections
      (some { type := o.type, name := o.name, variableDefinitions := o.variableDefinitions,
              directives := o.directives, selections, place := o.place }, found)

/-- Add an operation; a name stands once, and an anonymous operation stands alone. -/
def addOperation (s : Schema) (d : Executable) (o : Operation Unit) :
    Executable × List Diagnostic :=
  match o.name with
  | some name =>
      let ambiguous := d.anonymous.toList.map fun a =>
        ⟨.ambiguousAnonymousOperation, a.place⟩
      if d.operations.any (·.1 = name.node) then
        (d, ambiguous ++ [⟨.repeatedOperation name.node, name.place⟩])
      else
        let (resolved, found) := resolveOperation s o
        ({ d with operations := d.operations ++ resolved.toList.map fun r => (name.node, r) },
          ambiguous ++ found)
  | none      =>
      match d.anonymous with
      | some _ => (d, [⟨.ambiguousAnonymousOperation, o.place⟩])
      | none   =>
          if !d.operations.isEmpty then (d, [⟨.ambiguousAnonymousOperation, o.place⟩]) else
            let (resolved, found) := resolveOperation s o
            ({ d with anonymous := resolved }, found)

/-- Add a fragment; a name stands once. -/
def addFragment (s : Schema) (d : Executable) (f : Fragment Unit) :
    Executable × List Diagnostic :=
  if d.fragments.any (·.1 = f.name.node) then
    (d, [⟨.repeatedFragment f.name.node, f.name.place⟩])
  else
    match s.type? f.condition.node with
    | none   =>
        (d, [⟨.undefinedFragmentCondition f.condition.node f.name.node, f.condition.place⟩])
    | some t =>
        let (selections, found) := resolveSelections s (some t) f.selections
        ({ d with fragments := d.fragments ++ [(f.name.node,
            { name := f.name, condition := f.condition, directives := f.directives, selections,
              place := f.place })] }, found)

/-- Add a definition. -/
def add (s : Schema) (d : Executable) : Definition → Executable × List Diagnostic
  | .operation o            => addOperation s d o
  | .fragment f             => addFragment s d f
  | .typeSystem found place => (d, [⟨.schemaDefinition found.describe, place⟩])

/-- Whether another anonymous operation follows on one. -/
def isFollowed (o : Operation FieldDefinition) (definitions : List Definition) : Bool :=
  definitions.any fun
    | .operation ⟨_, none, _, _, _, place⟩ => o.place < place
    | _                                    => false

/-- The executable document of definitions, and what is wrong with them. -/
def resolve (s : Schema) (definitions : List Definition) : Executable × List Diagnostic :=
  let (document, found) := definitions.foldl (fun (d, found) definition =>
    let (d, more) := add s d definition
    (d, found ++ more)) (({} : Executable), [])
  let first := (document.anonymous.toList.filter fun o => isFollowed o definitions).map fun o =>
    ⟨.ambiguousAnonymousOperation, o.place⟩
  (document, first ++ found)

/-! ### Selecting an operation -/

/-- Why no operation was selected. -/
inductive SelectionError where
  | notFound (name : String)
  | noOperation
  | nameRequired
deriving DecidableEq, Repr

/-- The wording of the error. -/
def SelectionError.message : SelectionError → String
  | notFound name => "operation " ++ name ++ " not found"
  | noOperation   => "no operation provided"
  | nameRequired  => "operation name required"

/-- The operation to run: that of a name, or the only one. -/
def select (d : Executable) : Option String → Except SelectionError (Operation FieldDefinition)
  | some name =>
      match d.operations.lookup name with
      | some o => .ok o
      | none   => .error (.notFound name)
  | none      =>
      match d.allOperations with
      | [o] => .ok o
      | []  => .error .noOperation
      | _   => .error .nameRequired

/-! ### Counting fields -/

mutual

/-- The number of fields in a selection. -/
def fieldsInSelection : ExecutableSelection → Nat
  | .spread _ _ _       => 0
  | .inline _ _ _ inner => fieldsIn inner
  | .field _ inner      => 1 + fieldsIn inner

/-- The number of fields in selections. -/
def fieldsIn : List ExecutableSelection → Nat
  | []            => 0
  | first :: rest => fieldsInSelection first + fieldsIn rest

end

/-- The number of fields in a document.  Where no fragment reaches itself, fields are nested no
deeper than that. -/
def fieldCount (d : Executable) : Nat :=
  d.allOperations.foldr (fun o n => fieldsIn o.selections + n) 0
    + d.fragments.foldr (fun f n => fieldsIn f.2.selections + n) 0

/-! ### Fragments that selections reach -/

mutual

/-- The fragments that a selection names. -/
def spreadsOf : ExecutableSelection → List String
  | .spread fragment _ _ => [fragment]
  | .inline _ _ _ inner  => spreads inner
  | .field _ inner       => spreads inner

/-- The fragments that selections name, in order. -/
def spreads : List ExecutableSelection → List String
  | []            => []
  | first :: rest => spreadsOf first ++ spreads rest

end

/-- The fragments reached from names still to be followed, after those already `seen`; each name
is followed once. -/
def follow (d : Executable) : Nat → List String → List String → List String
  | 0,        _,            seen => seen
  | _ + 1,    [],           seen => seen
  | fuel + 1, name :: rest, seen =>
      if name ∈ seen then follow d fuel rest seen
      else
        match d.fragment? name with
        | none   => follow d fuel rest seen
        | some f => follow d fuel (spreads f.selections ++ rest) (seen ++ [name])

/-- The number of spreads in a document. -/
def spreadCount (d : Executable) : Nat :=
  d.fragments.foldr (fun f n => (spreads f.2.selections).length + n) 0

/-- The fragments that selections reach, each once. -/
def reachable (d : Executable) (selections : List ExecutableSelection) : List String :=
  let start := spreads selections
  follow d (start.length + d.spreadCount + 1) start []

/-! ### Selections with their fragments -/

mutual

/-- The number of selections in a selection, itself included. -/
def sizeOfSelection : ExecutableSelection → Nat
  | .spread _ _ _       => 1
  | .inline _ _ _ inner => 1 + size inner
  | .field _ inner      => 1 + size inner

/-- The number of selections in selections. -/
def size : List ExecutableSelection → Nat
  | []            => 0
  | first :: rest => sizeOfSelection first + size rest

end

/-- Selections followed by those of their fragments, each named one expanded once; what is selected
of fields is left alone.  `seen` are the fragments that were expanded before. -/
def expandRoot (d : Executable) : Nat → List String → List ExecutableSelection →
    List ExecutableSelection
  | 0,        _,    _                                => []
  | _ + 1,    _,    []                               => []
  | fuel + 1, seen, .field head inner :: rest        =>
      .field head inner :: expandRoot d fuel seen rest
  | fuel + 1, seen, .inline c ds place inner :: rest =>
      .inline c ds place [] :: expandRoot d fuel seen (inner ++ rest)
  | fuel + 1, seen, .spread name ds place :: rest    =>
      let inner := if name ∈ seen then [] else ((d.fragment? name).map (·.selections)).getD []
      .spread name ds place :: expandRoot d fuel (name :: seen) (inner ++ rest)

/-- More selections than are met when those given are followed, each named fragment once. -/
def selectionBound (d : Executable) (selections : List ExecutableSelection) : Nat :=
  size selections + d.fragments.foldr (fun f n => size f.2.selections + n) 0 + 1

/-- The selections at the root of an operation, those in its fragments included. -/
def rootSelections (d : Executable) (selections : List ExecutableSelection) :
    List ExecutableSelection :=
  expandRoot d (d.selectionBound selections) [] selections

/-- What lies below a selection: what is selected of it, unless it names a fragment that was `seen`
before or that there is none of; and the fragments seen then. -/
def below? (d : Executable) (seen : List String) :
    ExecutableSelection → Option (List ExecutableSelection) × List String
  | .field _ inner      => (some inner, seen)
  | .inline _ _ _ inner => (some inner, seen)
  | .spread name _ _    =>
      if name ∈ seen then (none, seen)
      else ((d.fragment? name).map (·.selections), name :: seen)

/-- Walk through selections with each named fragment entered once; `enter` walks through what lies
below one of them.  The answer is the fragments seen, unless `enter` has none. -/
def walkWith (d : Executable)
    (enter : List String → List ExecutableSelection → Option (List String)) (seen : List String) :
    List ExecutableSelection → Option (List String)
  | []            => some seen
  | first :: rest =>
      match d.below? seen first with
      | (none, seen)       => walkWith d enter seen rest
      | (some inner, seen) => (enter seen inner).bind fun seen => walkWith d enter seen rest

/-- Walk through selections with at most `left` levels below them: the fragments seen, unless there
are more levels. -/
def walk? (d : Executable) : Nat → List String → List ExecutableSelection → Option (List String)
  | 0        => walkWith d fun _ _ => none
  | left + 1 => walkWith d (walk? d left)

/-- How many levels of selections may lie below an operation, fragments entered. -/
def depthLimit : Nat := 500

/-- Whether selections keep to the limit of levels. -/
def isWithin (d : Executable) (selections : List ExecutableSelection) : Bool :=
  (d.walk? depthLimit [] selections).isSome

end Executable

end GraphServe.Document
