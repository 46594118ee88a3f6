import GraphServe.Document.Ast

/-!
# Parts of documents that are alike

Two parts of a document are alike if they say the same in the same order, wherever they stand.

* `Value.alike`, `Directive.alike` and `Selection.alike` compare parts of one kind.
-/

namespace GraphServe.Document

namespace Value

mutual

/-- Whether two values are alike. -/
def alike : Value → Value → Bool
  | .null,       .null       => true
  | .bool a,     .bool b     => a == b
  | .int a,      .int b      => a == b
  | .float a,    .float b    => a == b
  | .string a,   .string b   => a == b
  | .enum a,     .enum b     => a == b
  | .variable a, .variable b => a == b
  | .list a,     .list b     => alikeItems a b
  | .object a,   .object b   => alikeFields a b
  | _,           _           => false

/-- Whether the items of two lists are alike. -/
def alikeItems : List (Located Value) → List (Located Value) → Bool
  | [],           []           => true
  | ⟨a, _⟩ :: as, ⟨b, _⟩ :: bs => alike a b && alikeItems as bs
  | _,            _            => false

/-- Whether the fields of two objects are alike. -/
def alikeFields : List (String × Located Value) → List (String × Located Value) → Bool
  | [],                []                => true
  | (j, ⟨a, _⟩) :: as, (k, ⟨b, _⟩) :: bs => j == k && alike a b && alikeFields as bs
  | _,                 _                 => false

end

end Value

/-- Whether two lists have like members. -/
def likeMembers {α : Type} (alike : α → α → Bool) (as bs : List α) : Bool :=
  as.length == bs.length && (as.zip bs).all fun (a, b) => alike a b

/-- Whether two arguments are alike. -/
def Argument.alike (a b : Argument) : Bool := a.name == b.name && a.value.node.alike b.value.node

/-- Whether two directives are alike. -/
def Directive.alike (a b : Directive) : Bool :=
  a.name == b.name && likeMembers Argument.alike a.arguments b.arguments

/-- Whether two fields are alike but for what is selected of them. -/
def FieldHead.alike {α : Type} (a b : FieldHead α) : Bool :=
  a.alias? == b.alias? && a.name.node == b.name.node
    && likeMembers Argument.alike a.arguments b.arguments
    && likeMembers Directive.alike a.directives b.directives

namespace Selection

variable {α : Type}

mutual

/-- Whether two selections are alike. -/
def alike : Selection α → Selection α → Bool
  | .field a as,      .field b bs      => a.alike b && alikeAll as bs
  | .spread a das _,  .spread b dbs _  => a == b && likeMembers Directive.alike das dbs
  | .inline a das _ as, .inline b dbs _ bs =>
      a.map (·.node) == b.map (·.node) && likeMembers Directive.alike das dbs && alikeAll as bs
  | _,                _                => false

/-- Whether the selections of two sets are alike. -/
def alikeAll : List (Selection α) → List (Selection α) → Bool
  | [],      []      => true
  | a :: as, b :: bs => alike a b && alikeAll as bs
  | _,       _       => false

end

end Selection

end GraphServe.Document
