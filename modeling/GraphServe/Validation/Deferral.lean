import GraphServe.Document.Executable

/-!
# Deferred fragments

A fragment may be put off by the directive `@defer`, whose label tells it from the others.

* `Deferral.check` holds the labels of a document to being static and different, keeps the
  directive from the root of mutations and subscriptions, whose fields run in order, and from
  subscriptions altogether unless it is disabled.
-/

namespace GraphServe.Validation.Deferral

open Document

/-- The directive that puts a fragment off. -/
def directive? (directives : List Directive) : Option Directive :=
  Directive.find? directives "defer"

mutual

/-- The deferrals in a selection. -/
def deferralsOf : ExecutableSelection → List Directive
  | .field head inner    => (directive? head.directives).toList ++ deferrals inner
  | .spread _ ds _       => (directive? ds).toList
  | .inline _ ds _ inner => (directive? ds).toList ++ deferrals inner

/-- The deferrals in selections, in order. -/
def deferrals : List ExecutableSelection → List Directive
  | []            => []
  | first :: rest => deferralsOf first ++ deferrals rest

end

/-- What is wrong with the labels of deferrals; `seen` are those of earlier ones. -/
def checkLabels (seen : List String) : List Directive → List Diagnostic
  | []        => []
  | d :: rest =>
      match d.argument? "label" with
      | some ⟨.variable _, place⟩   => ⟨.variableLabel, place⟩ :: checkLabels seen rest
      | some ⟨.string label, place⟩ =>
          (if label ∈ seen then [⟨.repeatedLabel label, place⟩] else [])
            ++ checkLabels (label :: seen) rest
      | _                           => checkLabels seen rest

/-- The deferrals at the root of a mutation or subscription. -/
def checkRoot (d : Executable) (o : Operation FieldDefinition) : List Diagnostic :=
  if o.type = .query then []
  else
    (d.rootSelections o.selections).filterMap fun selection =>
      (directive? selection.directives).map fun found =>
        ⟨.deferralAtRoot o.type, found.place⟩

/-- Whether a selection may be left out: by a variable, or in any case. -/
def mayBeLeftOut (directives : List Directive) : Bool :=
  let condition? (name : String) : Option Value := do
    let d ← Directive.find? directives name
    return (← d.argument? "if").node
  (match condition? "skip" with
    | none | some (.bool false) => false
    | some _                    => true)
    || match condition? "include" with
      | none | some (.bool true) => false
      | some _                   => true

/-- The deferrals that are met when selections are followed, each named fragment once, but for what
may be left out. -/
def deferralsMet (d : Executable) : Nat → List String → List ExecutableSelection → List Directive
  | 0,        _,    _             => []
  | _ + 1,    _,    []            => []
  | fuel + 1, seen, first :: rest =>
      if mayBeLeftOut first.directives then deferralsMet d fuel seen rest
      else
        let (inner, seen) := d.below? seen first
        (directive? first.directives).toList ++ deferralsMet d fuel seen (inner.getD [] ++ rest)

/-- Whether a deferral is disabled, or may be. -/
def isDisabled (deferral : Directive) : Bool :=
  match deferral.argument? "if" with
  | some ⟨.variable _, _⟩ | some ⟨.bool false, _⟩ => true
  | _                                             => false

/-- The deferrals of a subscription that are not disabled. -/
def checkSubscription (d : Executable) (o : Operation FieldDefinition) : List Diagnostic :=
  if o.type ≠ .subscription then []
  else
    ((deferralsMet d (d.selectionBound o.selections) [] o.selections).filter (!isDisabled ·)).map
      fun found => ⟨.deferralInSubscription, found.place⟩

/-- What is wrong with the deferrals of a document. -/
def check (d : Executable) : List Diagnostic :=
  checkLabels [] (d.allOperations.flatMap (fun o => deferrals o.selections)
      ++ d.fragments.flatMap fun f => deferrals f.2.selections)
    ++ d.allOperations.flatMap fun o => checkRoot d o ++ checkSubscription d o

end GraphServe.Validation.Deferral
