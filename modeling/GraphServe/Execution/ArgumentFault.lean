import GraphServe.Execution.Arguments
import GraphServe.Schema.Basic

/-!
# Faults of arguments

Validation leaves it open whether a variable that stands for an argument, or inside of one, has a
value when the operation runs.  Here the arguments of a field are held to their types once more,
with the values of variables at hand.

* `Arguments.fault?` is the first fault of the arguments of a field.
-/

namespace GraphServe.Arguments

open Document

/-- Whether a number is too great for a double. -/
def isTooGreat (text : String) : Bool :=
  match Json.ofNumberText text with
  | .null => true
  | _     => false

mutual

/-- The fault of a value that is taken as it is written; `place` says where it stands. -/
def constantFault? (place : String) : Value → Option String
  | .variable _    => some ("Variable in default value of " ++ place ++ ".")
  | .int text      => if isTooGreat text then some ("IntValue overflow in " ++ place) else none
  | .float text    => if isTooGreat text then some ("FloatValue overflow in " ++ place) else none
  | .list items    => constantItemsFault? place items
  | .object fields => constantFieldsFault? place fields
  | _              => none

/-- The first fault of some items. -/
def constantItemsFault? (place : String) : List (Located Value) → Option String
  | []                => none
  | ⟨item, _⟩ :: rest => constantFault? place item <|> constantItemsFault? place rest

/-- The first fault of some fields. -/
def constantFieldsFault? (place : String) : List (String × Located Value) → Option String
  | []                     => none
  | (_, ⟨item, _⟩) :: rest => constantFault? place item <|> constantFieldsFault? place rest

end

/-- The fault of a value that is not given: the one of its default, or that it is required. -/
def defaultFault? (place missing : String) (definition : InputValue) : Option String :=
  match definition.default? with
  | some value => constantFault? place value
  | none       => if definition.type.isRequired then some missing else none

mutual

/-- The fault of a value of a type; `place` says where it stands. -/
def valueFault? (s : Schema) (values : Json.Members) (place : String) (type : TypeRef) :
    Value → Option String
  | .null          => if type.isRequired then some ("null value for non-null " ++ place) else none
  | .variable name =>
      if !type.isRequired then none
      else
        match values.get? name with
        | none       => some ("missing variable for non-null " ++ place)
        | some .null => some ("null variable value for non-null " ++ place)
        | some _     => none
  | .list items    =>
      match type with
      | .list item _ => itemsFault? s values place item items
      | .named _ _   => constantItemsFault? place items
  | .object fields =>
      match s.type? type.innerName with
      | some ⟨name, _, _, .input definitions⟩ =>
          let faults := fieldFaults s values name definitions fields
          definitions.findSome? fun definition =>
            match faults.reverse.lookup definition.name with
            | some fault => fault
            | none       =>
                defaultFault? ("input field " ++ name ++ "." ++ definition.name)
                  ("Missing value for non-null input object field " ++ name ++ "."
                    ++ definition.name) definition
      | _ => constantFieldsFault? place fields
  | literal        => constantFault? place literal

/-- The first fault of items of a type. -/
def itemsFault? (s : Schema) (values : Json.Members) (place : String) (type : TypeRef) :
    List (Located Value) → Option String
  | []                => none
  | ⟨item, _⟩ :: rest =>
      valueFault? s values place type item <|> itemsFault? s values place type rest

/-- The faults of fields of an input object, by their names; the last field of a name counts. -/
def fieldFaults (s : Schema) (values : Json.Members) (parent : String)
    (definitions : List InputValue) : List (String × Located Value) → List (String × Option String)
  | []                        => []
  | (name, ⟨item, _⟩) :: rest =>
      let type := ((definitions.find? (·.name = name)).map (·.type)).getD default
      (name, valueFault? s values ("input field " ++ parent ++ "." ++ name) type item)
        :: fieldFaults s values parent definitions rest

end

variable {α : Type}

/-- The fault of one argument of a field. -/
def argumentFault? (s : Schema) (values : Json.Members) (head : FieldHead α)
    (definition : InputValue) : Option String :=
  let name := definition.name
  let place := "argument " ++ name
  let absent := defaultFault? place ("missing value for required argument " ++ name) definition
  let null := if definition.type.isRequired then
    some ("null value for non-nullable argument " ++ name) else none
  match head.argument? name with
  | none                 => absent
  | some ⟨.null, _⟩      => null
  | some ⟨.variable v, _⟩ =>
      match values.get? v with
      | none       => absent
      | some .null => null
      | some _     => none
  | some ⟨literal, _⟩    => valueFault? s values place definition.type literal

/-- The first fault of the arguments of a field, in the order of their definitions. -/
def fault? (s : Schema) (values : Json.Members) (head : FieldHead α)
    (definitions : List InputValue) : Option String :=
  definitions.findSome? (argumentFault? s values head)

end GraphServe.Arguments
