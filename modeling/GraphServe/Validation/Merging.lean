import GraphServe.Validation.Diagnostic
import GraphServe.Document.Alike
import GraphServe.Document.Executable

/-!
# Fields that share a response key

Fields under one key of the response are merged into one.  Their types must have the same shape;
and those that may be selected on one object must be the same field with the same arguments.  The
same holds of what is selected from them, taken together.

* `Merging.check` holds the operations of a document to this, down to a limit of nesting.
-/

namespace GraphServe.Validation.Merging

open Document

/-- A field together with the type it is selected on. -/
structure Chosen where
  parent     : String
  head       : FieldHead FieldDefinition
  selections : List ExecutableSelection

/-- Whether two fields are alike, down to all that is selected of them. -/
def Chosen.alike (a b : Chosen) : Bool :=
  a.parent == b.parent && a.head.alike b.head && Selection.alikeAll a.selections b.selections

/-- How deep merged fields may be nested below those of an operation. -/
def depthLimit : Nat := 128

/-- The fields of selections on a type that stand there directly, then those of fragments on the
spot, and the named fragments. -/
structure Layer where
  fields  : List Chosen
  inner   : List (String × List ExecutableSelection)

/-- The fields and the fragments of selections on a type, each in order. -/
def layer (d : Executable) (parent : String) (seen : List String) :
    List ExecutableSelection → Layer × List String
  | []                                 => (⟨[], []⟩, seen)
  | .field head selections :: rest     =>
      let (l, seen) := layer d parent seen rest
      ({ l with fields := ⟨parent, head, selections⟩ :: l.fields }, seen)
  | .inline condition _ _ inner :: rest =>
      let type := (condition.map (·.node)).getD parent
      let (l, seen) := layer d parent seen rest
      ({ l with inner := (type, inner) :: l.inner }, seen)
  | .spread name _ _ :: rest           =>
      if name ∈ seen then layer d parent seen rest
      else
        let (l, seen) := layer d parent (name :: seen) rest
        match d.fragment? name with
        | none   => (l, seen)
        | some f => ({ l with inner := (f.condition.node, f.selections) :: l.inner }, seen)

/-- The fields of selection sets, fragments expanded set by set, each named one once. -/
def expand (d : Executable) : Nat → List String → List (String × List ExecutableSelection) →
    List Chosen
  | 0,        _,    _                       => []
  | _ + 1,    _,    []                      => []
  | fuel + 1, seen, (parent, selections) :: rest =>
      let (l, seen) := layer d parent seen selections
      l.fields ++ expand d fuel seen (rest ++ l.inner)

mutual

/-- The number of selection sets in a selection. -/
def setsOf : ExecutableSelection → Nat
  | .spread _ _ _        => 0
  | .inline _ _ _ inner  => 1 + sets inner
  | .field _ inner       => 1 + sets inner

/-- The number of selection sets in selections. -/
def sets : List ExecutableSelection → Nat
  | []            => 0
  | first :: rest => setsOf first + sets rest

end

/-- More selection sets than any expansion meets. -/
def bound (d : Executable) : Nat :=
  d.allOperations.foldr (fun o n => sets o.selections + n) 0
    + d.fragments.foldr (fun f n => sets f.2.selections + 1 + n) 0 + 1

/-- The fields of what is selected from some fields. -/
def nested (d : Executable) (fields : List Chosen) : List Chosen :=
  expand d (bound d + fields.length) [] <|
    (fields.filter (!·.selections.isEmpty)).map fun f =>
      (f.head.note.type.innerName, f.selections)

/-- Add a field to the group of its key. -/
def addToGroup (f : Chosen) : List (String × List Chosen) → List (String × List Chosen)
  | []                  => [(f.head.responseKey, [f])]
  | (key, fields) :: rest =>
      if key = f.head.responseKey then (key, fields ++ [f]) :: rest
      else (key, fields) :: addToGroup f rest

/-- The fields by key, in the order in which keys come first. -/
def groups (fields : List Chosen) : List (List Chosen) :=
  (fields.foldl (fun gs f => addToGroup f gs) []).map (·.2)

/-- Whether two types have the same shape: the same lists and `null`s around types that are the
same or both have selections. -/
def sameShape (s : Schema) : TypeRef → TypeRef → Bool
  | .list a ra,  .list b rb  => ra == rb && sameShape s a b
  | .named a ra, .named b rb =>
      ra == rb &&
        match s.type? a, s.type? b with
        | some ta, some tb => if ta.isComposite && tb.isComposite then true else a == b
        | _,       _       => true
  | _,           _           => false

/-- Whether two fields have the same arguments. -/
def sameArguments (a b : FieldHead FieldDefinition) : Bool :=
  let within (xs ys : List Argument) : Bool := xs.all fun x =>
    match ys.find? (·.name = x.name) with
    | some y => Value.agree y.value.node x.value.node
    | none   => false
  within a.arguments b.arguments && b.arguments.all fun y => a.arguments.any (·.name = y.name)

/-- What keeps two fields from being one. -/
def difference? (a b : FieldHead FieldDefinition) : Option Problem :=
  if a.name.node ≠ b.name.node then some (.conflictingFields a.responseKey)
  else if sameArguments a b then none
  else some (.conflictingArguments a.name.node)

/-- Fields that may be selected on one object: by object type, each with all fields selected on
interfaces and unions. -/
def byParent (s : Schema) (fields : List Chosen) : List (List Chosen) :=
  let isObject (f : Chosen) : Bool := ((s.type? f.parent).map (·.isObject)).getD false
  let abstract := fields.filter fun f =>
    ((s.type? f.parent).map fun t => t.isComposite && !t.isObject).getD false
  let concrete := fields.filter isObject
  let parents := (concrete.map (·.parent)).foldl (fun ps p => if p ∈ ps then ps else ps ++ [p]) []
  if parents.isEmpty then [abstract]
  else parents.map fun p => concrete.filter (·.parent = p) ++ abstract

/-- How far checking has come: the sets of fields that were checked, and whether the limit of
nesting was passed. -/
structure Progress where
  checked : List (List Chosen) := []
  tooDeep : Bool := false

/-- The first field of a group against the others. -/
def compareFirst (differs : Chosen → Chosen → Option Problem) : List Chosen → List Diagnostic
  | []            => []
  | first :: rest => rest.filterMap fun f => (differs first f).map (⟨·, f.head.place⟩)

/-- Check the groups of a set of fields, then the sets of what is selected from each group.  A set
is not checked if one that is alike was checked before. -/
def checkSet (d : Executable) (split : List Chosen → List (List Chosen))
    (differs : Chosen → Chosen → Option Problem) :
    Nat → List Chosen → Progress → List Diagnostic × Progress
  | 0,         _,      progress => ([], { progress with tooDeep := true })
  | depth + 1, fields, progress =>
      if progress.checked.any (likeMembers Chosen.alike fields) then ([], progress)
      else
        let progress := { progress with checked := fields :: progress.checked }
        (split fields).foldl (fun (found, progress) group =>
          let found := found ++ compareFirst differs group
          if group.any (!·.selections.isEmpty) then
            let (more, progress) := checkSet d split differs depth (nested d group) progress
            (found ++ more, progress)
          else (found, progress)) ([], progress)

/-- What keeps the fields of each of some operations from being merged.  What one operation was
checked for is not checked for a later one, and once one is nested too deep the later ones count as
such. -/
def checkOperations (s : Schema) (d : Executable) (shapes names : Progress) :
    List (Operation FieldDefinition) → List (List Diagnostic)
  | []        => []
  | o :: rest =>
      let root := (s.root? o.type).getD ""
      let fields := expand d (bound d + 1) [] [(root, o.selections)]
      let (otherShapes, shapes) := checkSet d groups (fun a b =>
        if sameShape s a.head.note.type b.head.note.type then none
        else some (.conflictingTypes a.head.responseKey)) (depthLimit + 1) fields shapes
      let (otherNames, names) := checkSet d (fun fields => (groups fields).flatMap (byParent s))
        (fun a b => difference? a.head b.head) (depthLimit + 1) fields names
      let deep := if shapes.tooDeep || names.tooDeep then [⟨.tooDeep, o.place⟩] else []
      (otherShapes ++ otherNames ++ deep) :: checkOperations s d shapes names rest

/-- What keeps the fields of each operation of a document from being merged. -/
def check (s : Schema) (d : Executable) : List (List Diagnostic) :=
  checkOperations s d {} {} d.allOperations

end GraphServe.Validation.Merging
