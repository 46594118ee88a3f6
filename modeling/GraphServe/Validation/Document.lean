import GraphServe.Validation.Deferral
import GraphServe.Validation.Merging
import GraphServe.Validation.Values

/-!
# Validation of documents

Whether the operations of a document may be run on a schema.

* `validate` gives the executable document of some definitions, or everything that is wrong with
  them in the order of places.
-/

namespace GraphServe.Validation

open Document

/-! ### Variables -/

/-- What is wrong with the variables of an operation; `seen` are those that came before. -/
def checkVariables (s : Schema) (seen : List String) : List VariableDefinition → List Diagnostic
  | []        => []
  | v :: rest =>
      let type := match s.type? v.type.innerName with
        | none   => [⟨.undefinedType v.type.innerName, v.place⟩]
        | some t =>
            if !t.isInput then [⟨.variableNotInput v.name, v.place⟩]
            else
              match v.default? with
              | some value => checkValue s [] v.type value.place value.node
              | none       => []
      checkDirectives s [] "VARIABLE_DEFINITION" [] v.directives ++ type
        ++ (if v.name ∈ seen then [⟨.repeatedVariable v.name, v.place⟩] else [])
        ++ checkVariables s (v.name :: seen) rest

/-- The variables in arguments. -/
def variablesOfArguments (arguments : List Argument) : List String :=
  arguments.flatMap (·.value.node.variableNames)

/-- The variables in directives. -/
def variablesOfDirectives (directives : List Directive) : List String :=
  directives.flatMap fun d => variablesOfArguments d.arguments

mutual

/-- The variables in a selection. -/
def variablesOf : ExecutableSelection → List String
  | .field head inner     =>
      variablesOfDirectives head.directives ++ variablesOfArguments head.arguments
        ++ variablesIn inner
  | .spread _ ds _        => variablesOfDirectives ds
  | .inline _ ds _ inner  => variablesOfDirectives ds ++ variablesIn inner

/-- The variables in selections. -/
def variablesIn : List ExecutableSelection → List String
  | []            => []
  | first :: rest => variablesOf first ++ variablesIn rest

end

/-- The variables that an operation uses, also through fragments. -/
def usedVariables (d : Executable) (o : Operation FieldDefinition) : List String :=
  variablesOfDirectives o.directives ++ variablesIn o.selections
    ++ (d.reachable o.selections).flatMap fun name =>
        match d.fragment? name with
        | some f => variablesOfDirectives f.directives ++ variablesIn f.selections
        | none   => []

/-- The variables that are declared and not used; of one that is declared again the last counts. -/
def unusedAmong (used : List String) : List VariableDefinition → List Diagnostic
  | []        => []
  | v :: rest =>
      (if v.name ∈ used ∨ rest.any (·.name = v.name) then []
        else [⟨.unusedVariable v.name, v.place⟩])
        ++ unusedAmong used rest

/-- The variables that an operation declares and does not use. -/
def unusedVariables (d : Executable) (o : Operation FieldDefinition) : List Diagnostic :=
  if d.isWithin o.selections then unusedAmong (usedVariables d o) o.variableDefinitions
  else [⟨.tooDeep, none⟩]

/-! ### Selections -/

/-- Whether no object is of two types. -/
def isDisjoint (s : Schema) (a b : String) : Bool :=
  !(s.possibleTypes a).any ((s.possibleTypes b).contains ·)

/-- What is wrong with a fragment on `condition` where `parent` is selected from.  A fragment on the
very type is never wrong, even if there is no object of it. -/
def checkApplicable (s : Schema) (fragment : Option String) (condition parent : String)
    (place : Nat) : List Diagnostic :=
  if condition ≠ parent ∧ isDisjoint s parent condition then
    [⟨.fragmentNotApplicable fragment condition parent, place⟩]
  else []

/-- Whether a type may be the condition of a fragment. -/
def isFragmentType (s : Schema) (name : String) : Bool :=
  ((s.type? name).map (·.isComposite)).getD true

/-- What is found in selections: what is wrong, and the fragments named on the way. -/
structure Finding where
  diagnostics : List Diagnostic := []
  spreads     : List String := []

instance : Append Finding :=
  ⟨fun a b => ⟨a.diagnostics ++ b.diagnostics, a.spreads ++ b.spreads⟩⟩

/-- What is wrong with a field but for its selections. -/
def checkField (s : Schema) (declared : List VariableDefinition) (parent : String)
    (head : FieldHead FieldDefinition) (isLeaf : Bool) : List Diagnostic :=
  let composite := ((s.type? head.note.type.innerName).map (·.isComposite)).getD false
  checkDirectives s declared "FIELD" [] head.directives
    ++ repeatedArguments [] head.arguments
    ++ checkArguments s declared (.field parent head.name.node) head.note.arguments
        head.arguments head.place
    ++ if isLeaf && composite then [⟨.missingSelection, head.place⟩] else []

mutual

/-- What is found in a selection on a type. -/
def checkSelection (s : Schema) (d : Executable) (declared : List VariableDefinition)
    (parent : String) : ExecutableSelection → Finding
  | .field head inner =>
      ⟨checkField s declared parent head inner.isEmpty, []⟩
        ++ checkSelections s d declared head.note.type.innerName inner
  | .spread name ds place =>
      let here := checkDirectives s declared "FRAGMENT_SPREAD" [] ds
      match d.fragment? name with
      | none   => ⟨here ++ [⟨.undefinedFragment name, place⟩], []⟩
      | some f => ⟨here ++ checkApplicable s (some name) f.condition.node parent place, [name]⟩
  | .inline none ds _ inner =>
      ⟨checkDirectives s declared "INLINE_FRAGMENT" [] ds, []⟩
        ++ checkSelections s d declared parent inner
  | .inline (some condition) ds place inner =>
      let here := checkDirectives s declared "INLINE_FRAGMENT" [] ds
      if isFragmentType s condition.node then
        ⟨here ++ checkApplicable s none condition.node parent place, []⟩
          ++ checkSelections s d declared condition.node inner
      else ⟨here ++ [⟨.conditionNotComposite none, place⟩], []⟩

/-- What is found in selections on a type. -/
def checkSelections (s : Schema) (d : Executable) (declared : List VariableDefinition)
    (parent : String) : List ExecutableSelection → Finding
  | []            => {}
  | first :: rest =>
      checkSelection s d declared parent first ++ checkSelections s d declared parent rest

end

/-! ### Fragments -/

/-- How a search for a cycle of fragments ends. -/
inductive CycleSearch where
  | none
  | cycle
  | tooDeep
deriving DecidableEq

/-- How many fragments may be nested. -/
def fragmentDepth : Nat := 100

/-- Search for a chain of spreads from `names` back to `root`; `path` are the fragments on the way,
and those that are `done` are not entered again. -/
def searchCycle (d : Executable) (root : String) : Nat → List String → List String →
    List String → CycleSearch × List String
  | 0,        _,    _,            done => (.none, done)
  | _ + 1,    _,    [],           done => (.none, done)
  | fuel + 1, path, name :: rest, done =>
      if name = root then (.cycle, done)
      else if name ∈ path ∨ name ∈ done then searchCycle d root fuel path rest done
      else
        match d.fragment? name with
        | Option.none => searchCycle d root fuel path rest done
        | some f      =>
            if fragmentDepth ≤ path.length then (.tooDeep, done)
            else
              match searchCycle d root fuel (name :: path) (Executable.spreads f.selections)
                  done with
              | (.none, done) => searchCycle d root fuel path rest (name :: done)
              | found         => found

/-- The cycle of spreads that a fragment is on, if any. -/
def cycleOf (d : Executable) (f : Fragment FieldDefinition) : CycleSearch :=
  let names := Executable.spreads f.selections
  (searchCycle d f.name.node (names.length + d.spreadCount + 1) [f.name.node] names []).1

/-- What is found in a fragment; one on a cycle or on a type without selections is not looked
into. -/
def checkFragment (s : Schema) (d : Executable) (declared : List VariableDefinition)
    (f : Fragment FieldDefinition) : Finding :=
  let name := f.name.node
  let cycle := match cycleOf d f with
    | .none    => []
    | .cycle   => [⟨.recursiveFragment name, f.place⟩]
    | .tooDeep => [⟨.deepFragment name, f.place⟩]
  let condition :=
    if isFragmentType s f.condition.node then []
    else [⟨.conditionNotComposite (some name), f.place⟩]
  let directives := checkDirectives s declared "FRAGMENT_DEFINITION" [] f.directives
  let inside :=
    if cycle.isEmpty && condition.isEmpty then
      checkSelections s d declared f.condition.node f.selections
    else {}
  ⟨directives ++ condition ++ cycle, []⟩ ++ inside

/-- What is found in the fragments that names lead to, each looked into once. -/
def checkFragments (s : Schema) (d : Executable) (declared : List VariableDefinition) :
    Nat → List String → List String → List Diagnostic
  | 0,        _,            _    => []
  | _ + 1,    [],           _    => []
  | fuel + 1, name :: rest, seen =>
      if name ∈ seen then checkFragments s d declared fuel rest seen
      else
        match d.fragment? name with
        | none   => checkFragments s d declared fuel rest seen
        | some f =>
            let finding := checkFragment s d declared f
            finding.diagnostics
              ++ checkFragments s d declared fuel (finding.spreads ++ rest) (name :: seen)

/-- The fragments that no operation reaches. -/
def unusedFragments (d : Executable) : List Diagnostic :=
  let deep := d.allOperations.filter fun o => !d.isWithin o.selections
  if deep.isEmpty then
    let used := d.allOperations.flatMap fun o => d.reachable o.selections
    d.fragments.filterMap fun (name, f) =>
      if name ∈ used then none else some ⟨.unusedFragment name, f.place⟩
  else deep.map fun _ => ⟨.tooDeep, none⟩

/-! ### Subscriptions -/

/-- What is wrong with a subscription: it has one root field, which tells of no type and hangs on no
condition. -/
def checkSubscription (d : Executable) (o : Operation FieldDefinition) : List Diagnostic :=
  if o.type ≠ .subscription then []
  else
    let selections := d.rootSelections o.selections
    let heads := selections.filterMap fun
      | .field head _ => some head
      | _             => none
    let telling := heads.filter fun h => h.name.node ∈ ["__type", "__schema", "__typename"]
    let conditions := selections.filterMap fun selection =>
      selection.directives.find? fun dir => dir.name = "skip" ∨ dir.name = "include"
    telling.map (fun h => ⟨.subscriptionOfMetaField o.name?, h.place⟩)
      ++ conditions.map (fun dir => ⟨.subscriptionOfConditionalField o.name?, dir.place⟩)
      ++ if heads.length ≤ 1 then [] else [⟨.subscriptionOfManyFields o.name?, o.place⟩]

/-! ### Documents -/

/-- The location of an operation for directives. -/
def directiveLocation : OperationType → String
  | .query        => "QUERY"
  | .mutation     => "MUTATION"
  | .subscription => "SUBSCRIPTION"

/-- What is wrong with an operation but for the merging of its fields. -/
def checkOperation (s : Schema) (d : Executable) (o : Operation FieldDefinition) :
    List Diagnostic :=
  let root := (s.root? o.type).getD ""
  let finding := checkSelections s d o.variableDefinitions root o.selections
  let fuel := finding.spreads.length + d.spreadCount + 1
  checkDirectives s o.variableDefinitions (directiveLocation o.type) [] o.directives
    ++ checkVariables s [] o.variableDefinitions
    ++ unusedVariables d o
    ++ finding.diagnostics
    ++ checkFragments s d o.variableDefinitions fuel finding.spreads []

/-- What is wrong with an executable document. -/
def check (s : Schema) (d : Executable) : List Diagnostic :=
  d.allOperations.flatMap (checkOperation s d)
    ++ unusedFragments d
    ++ Deferral.check d
    ++ (d.allOperations.zip (Merging.check s d)).flatMap fun (o, unmerged) =>
        checkSubscription d o ++ unmerged

/-- The executable document of definitions, or all that is wrong with them by place; what is wrong
with the whole comes first. -/
def validate (s : Schema) (definitions : List Definition) :
    Except (List Diagnostic) Executable :=
  let (document, found) := Executable.resolve s definitions
  match found ++ check s document with
  | []    => .ok document
  | wrong => .error (wrong.mergeSort fun a b => a.rank ≤ b.rank)

end GraphServe.Validation
