import GraphServe.Document.Ast

/-!
# Diagnostics

What can be wrong with a document for a schema, each with its wording.
-/

namespace GraphServe.Validation

open Document

/-- What arguments belong to. -/
inductive ArgumentOwner where
  | field (type field : String)
  | directive (name : String)
deriving DecidableEq, Repr

namespace ArgumentOwner

/-- The text of an owner. -/
def text : ArgumentOwner → String
  | field t f   => t ++ "." ++ f
  | directive d => "@" ++ d

/-- The text of an argument of an owner. -/
def argument (owner : ArgumentOwner) (name : String) : String :=
  owner.text ++ "(" ++ name ++ ":)"

end ArgumentOwner

/-- What is wrong. -/
inductive Problem where
  | ambiguousAnonymousOperation
  | repeatedOperation (name : String)
  | repeatedFragment (name : String)
  | undefinedRoot (type : OperationType)
  | schemaDefinition (description : String)
  | undefinedField (type field : String)
  | selectionOnScalar (type : String)
  | selectionOnEnum (type : String)
  | missingSelection
  | undefinedFragmentCondition (type fragment : String)
  | undefinedInlineCondition (type : String)
  | conditionNotComposite (fragment : Option String)
  | fragmentNotApplicable (fragment : Option String) (condition type : String)
  | undefinedFragment (name : String)
  | unusedFragment (name : String)
  | recursiveFragment (name : String)
  | deepFragment (name : String)
  | repeatedArgument (name : String)
  | undefinedArgument (name : String) (owner : ArgumentOwner)
  | missingArgument (name : String) (owner : ArgumentOwner)
  | undefinedDirective (name : String)
  | repeatedDirective (name : String)
  | misplacedDirective (name location : String)
  | undefinedType (name : String)
  | variableNotInput (name : String)
  | repeatedVariable (name : String)
  | unusedVariable (name : String)
  | undefinedVariable (name : String)
  | variableNotAllowed (name : String) (type : TypeRef) (argument : String)
      (argumentType : TypeRef)
  | valueOfOtherType (type : TypeRef) (found : String)
  | undefinedEnumValue (value type : String)
  | undefinedInputField (field type : String)
  | missingInputField (type field : String)
  | integerTooLarge
  | floatTooLarge
  | conflictingTypes (key : String)
  | conflictingArguments (field : String)
  | conflictingFields (key : String)
  | subscriptionOfManyFields (name : Option String)
  | subscriptionOfMetaField (name : Option String)
  | subscriptionOfConditionalField (name : Option String)
  | repeatedLabel (label : String)
  | variableLabel
  | deferralAtRoot (type : OperationType)
  | deferralInSubscription
  | tooDeep
deriving DecidableEq, Repr

namespace Problem

/-- A name between back quotes. -/
def ticked (name : String) : String := "`" ++ name ++ "`"

/-- A fragment in a message. -/
def fragment : Option String → String
  | some name => "fragment " ++ ticked name
  | none      => "inline fragment"

/-- A subscription in a message. -/
def subscription : Option String → String
  | some name => "subscription " ++ ticked name
  | none      => "anonymous subscription"

/-- The wording of a problem. -/
def message : Problem → String
  | ambiguousAnonymousOperation =>
      "anonymous operation cannot be selected when the document contains other operations"
  | repeatedOperation n =>
      "the operation " ++ ticked n ++ " is defined multiple times in the document"
  | repeatedFragment n  =>
      "the fragment " ++ ticked n ++ " is defined multiple times in the document"
  | undefinedRoot t     => ticked t.word ++ " root operation type is not defined"
  | schemaDefinition d  => "an executable document must not contain " ++ d
  | undefinedField t f  => "type " ++ ticked t ++ " does not have a field " ++ ticked f
  | selectionOnScalar t =>
      "field selection of scalar type " ++ ticked t ++ " must not have subselections"
  | selectionOnEnum t   =>
      "field selection of enum type " ++ ticked t ++ " must not have subselections"
  | missingSelection    => "interface, union and object types must have a subselection set"
  | undefinedFragmentCondition t f =>
      "type condition " ++ ticked t ++ " of fragment " ++ ticked f
        ++ " is not a type defined in the schema"
  | undefinedInlineCondition t =>
      "type condition " ++ ticked t ++ " of inline fragment is not a type defined in the schema"
  | conditionNotComposite f =>
      fragment f ++ " must have a composite type in its type condition"
  | fragmentNotApplicable f c t =>
      fragment f ++ " with type condition " ++ ticked c ++ " cannot be applied to " ++ ticked t
  | undefinedFragment n => "cannot find fragment " ++ ticked n ++ " in this document"
  | unusedFragment n    => "fragment " ++ ticked n ++ " must be used in an operation"
  | recursiveFragment n => ticked n ++ " fragment cannot reference itself"
  | deepFragment n      => ticked n ++ " contains too much nesting"
  | repeatedArgument n  => "the argument " ++ ticked n ++ " is provided multiple times"
  | undefinedArgument n owner =>
      "the argument " ++ ticked n ++ " is not supported by " ++ ticked owner.text
  | missingArgument n owner =>
      "the required argument " ++ ticked (owner.argument n) ++ " is not provided"
  | undefinedDirective n => "cannot find directive " ++ ticked ("@" ++ n) ++ " in this document"
  | repeatedDirective n =>
      "non-repeatable directive " ++ n ++ " can only be used once per location"
  | misplacedDirective n l => n ++ " directive is not supported for " ++ l ++ " location"
  | undefinedType n     => "cannot find type " ++ ticked n ++ " in this document"
  | variableNotInput n  => ticked ("$" ++ n) ++ " variable must be of an input type"
  | repeatedVariable n  => "the variable " ++ ticked ("$" ++ n) ++ " is declared multiple times"
  | unusedVariable n    => "unused variable: " ++ ticked ("$" ++ n)
  | undefinedVariable n => "variable " ++ ticked ("$" ++ n) ++ " is not defined"
  | variableNotAllowed n t a expected =>
      "variable " ++ ticked ("$" ++ n) ++ " of type " ++ ticked t.render
        ++ " cannot be used for argument " ++ ticked a ++ " of type " ++ ticked expected.render
  | valueOfOtherType t found => "expected value of type " ++ t.render ++ ", found " ++ found
  | undefinedEnumValue v t => "value " ++ ticked v ++ " does not exist on " ++ ticked t
  | undefinedInputField f t => "field " ++ ticked f ++ " does not exist on " ++ ticked t
  | missingInputField t f => "the required field " ++ ticked (t ++ "." ++ f) ++ " is not provided"
  | integerTooLarge     => "int cannot represent non 32-bit signed integer value"
  | floatTooLarge       => "float cannot represent non-finite 64-bit floating point value"
  | conflictingTypes k  =>
      "operation must not select different types using the same name " ++ ticked k
  | conflictingArguments f =>
      "operation must not provide conflicting field arguments for the same name " ++ ticked f
  | conflictingFields k => "cannot select different fields into the same alias " ++ ticked k
  | subscriptionOfManyFields n => subscription n ++ " can only have one root field"
  | subscriptionOfMetaField n =>
      subscription n ++ " can not have an introspection field as a root field"
  | subscriptionOfConditionalField n =>
      subscription n ++ " can not specify @skip or @include on root fields"
  | repeatedLabel l     =>
      ticked "@defer" ++ " label " ++ ticked l ++ " is not unique within the document"
  | variableLabel       =>
      ticked "@defer" ++ " label argument must be a static String, not a variable"
  | deferralAtRoot t    =>
      ticked "@defer" ++ " is not allowed on root selections of " ++ t.word ++ " operations"
  | deferralInSubscription =>
      ticked "@defer" ++ " in a subscription operation must be disabled with an "
        ++ ticked "if" ++ " argument"
  | tooDeep             => "too much recursion"

end Problem

/-- A problem at a place of a document, or one of the document as a whole. -/
structure Diagnostic where
  problem : Problem
  place   : Option Nat
deriving DecidableEq, Repr

/-- Where a problem stands among others: those of the whole document come first. -/
def Diagnostic.rank (d : Diagnostic) : Nat := (d.place.map (· + 1)).getD 0

end GraphServe.Validation
