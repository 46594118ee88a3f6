import GraphServe.Document.Executable
import GraphServe.Json.Value
import GraphServe.Schema.Basic

/-!
# Collected fields

The fields that selections ask of one object: fragments that apply to its type are opened, fields
under one response key are put together, and what a condition excludes is left out.

* `Conditions` decide whether a selection counts.
* `collect` gives the groups of fields by response key, in the order of their first fields.
-/

namespace GraphServe.Execution

open Document

/-- Decides by the directives of a selection whether it counts. -/
abbrev Conditions := List Directive → Bool

/-- The argument of the condition that a directive of a name puts on a selection, if it does. -/
def condition? (directives : List Directive) (name : String) : Option Value := do
  let d ← Directive.find? directives name
  return (← d.argument? "if").node

namespace Conditions

/-- The truth of a condition; what has no truth value is false. -/
def holds (values : Json.Members) : Value → Bool
  | .bool b        => b
  | .variable name => ((values.get? name).bind Json.bool?).getD false
  | _              => false

/-- A selection counts if it is not skipped and not left out. -/
def strict (values : Json.Members) : Conditions := fun directives =>
  !((condition? directives "skip").map (holds values)).getD false
    && ((condition? directives "include").map (holds values)).getD true

/-- The truth of a condition, if it has one. -/
def truth? (values : Json.Members) : Value → Option Bool
  | .bool b        => some b
  | .variable name => (values.get? name).bind Json.bool?
  | _              => none

/-- As `strict`, but a condition without truth value excludes nothing. -/
def lenient (values : Json.Members) : Conditions := fun directives =>
  !((condition? directives "skip").bind (truth? values)).getD false
    && ((condition? directives "include").bind (truth? values)).getD true

end Conditions

/-- A field with what is selected of it. -/
structure CollectedField where
  head       : FieldHead FieldDefinition
  selections : List ExecutableSelection
deriving Inhabited

/-- Fields by response key; no group is empty. -/
abbrev FieldGroups := List (String × List CollectedField)

/-- Add a field to the group of its response key. -/
def FieldGroups.add (field : CollectedField) : FieldGroups → FieldGroups
  | []                  => [(field.head.responseKey, [field])]
  | (key, fields) :: rest =>
      if key = field.head.responseKey then (key, fields ++ [field]) :: rest
      else (key, fields) :: add field rest

/-- What is collected so far: the groups, and the fragments that were opened. -/
structure Collected where
  groups : FieldGroups := []
  opened : List String := []

/-- Whether a fragment on a type applies to an object. -/
def applies (s : Schema) (object : String) (condition : String) : Bool :=
  condition = object || s.isSubtype condition object

mutual

/-- Collect from a selection.  A named fragment is opened by `openFragment`, once. -/
def collectSelection (s : Schema) (object : String) (counts : Conditions)
    (openFragment : String → Collected → Collected) :
    ExecutableSelection → Collected → Collected
  | .field head inner,        found =>
      if counts head.directives then
        { found with groups := found.groups.add ⟨head, inner⟩ }
      else found
  | .spread name ds _,        found =>
      if counts ds && !found.opened.contains name then
        openFragment name { found with opened := name :: found.opened }
      else found
  | .inline on? ds _ inner,   found =>
      if counts ds && (on?.all fun on => applies s object on.node) then
        collectSelections s object counts openFragment inner found
      else found

/-- Collect from selections in order. -/
def collectSelections (s : Schema) (object : String) (counts : Conditions)
    (openFragment : String → Collected → Collected) :
    List ExecutableSelection → Collected → Collected
  | [],            found => found
  | first :: rest, found =>
      collectSelections s object counts openFragment rest
        (collectSelection s object counts openFragment first found)

end

/-- Collect from a named fragment, with at most `fuel` fragments open inside each other. -/
def collectFragment (s : Schema) (d : Executable) (object : String) (counts : Conditions) :
    Nat → String → Collected → Collected
  | 0,        _,    found => found
  | fuel + 1, name, found =>
      match d.fragment? name with
      | some f =>
          if applies s object f.condition.node then
            collectSelections s object counts (collectFragment s d object counts fuel)
              f.selections found
          else found
      | none   => found

/-- The groups of fields that several sets of selections ask of an object.  Each fragment is opened
once, so no more are open inside each other than the document has. -/
def collect (s : Schema) (d : Executable) (object : String) (counts : Conditions)
    (sets : List (List ExecutableSelection)) : FieldGroups :=
  (sets.foldl (fun found selections =>
    collectSelections s object counts (collectFragment s d object counts (d.fragments.length + 1))
      selections found) ({} : Collected)).groups

end GraphServe.Execution
