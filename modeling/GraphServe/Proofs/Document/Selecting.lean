import GraphServe.Proofs.Document.Adding
import GraphServe.Proofs.Validation.Acyclic
import GraphServe.Transport
import Mathlib.Data.List.Induction

/-!
# Documents — the operation that a text asks for

The type of an operation is told twice, from the definitions of a text and from the document that
they make.  A valid document has the operations of its text, in order and with their names and types
(`Executable.Mirrors`); what does not go into a document is reported, and then the document is not
valid.  So both tell the same type of every valid text (`requestedType?_eq_select`).
-/

namespace GraphServe

namespace Document

open Validation

/-- The operations among some definitions. -/
def operationsOf (definitions : List Definition) : List (Operation Unit) :=
  definitions.filterMap fun
    | .operation o => some o
    | _            => none

/-- What an operation is picked by, and its type. -/
def Operation.signature {α : Type} (o : Operation α) : Option String × OperationType :=
  (o.name?, o.type)

namespace Executable

variable {s : Schema} {d : Executable}

/-- A document has the operations of a text; an anonymous one stands alone. -/
structure Mirrors (d : Executable) (operations : List (Operation Unit)) : Prop where
  signatures : d.allOperations.map (·.signature) = operations.map (·.signature)
  alone      : d.anonymous.isSome → d.operations = []

theorem mirrors_empty : Mirrors {} [] where
  signatures := rfl
  alone h := by cases h

/-- An operation that nothing is wrong with has a root type. -/
theorem resolveOperation_ok {o : Operation Unit} (h : (resolveOperation s o).2 = []) :
    ∃ resolved, (resolveOperation s o).1 = some resolved ∧ resolved.name = o.name ∧
      resolved.type = o.type := by
  unfold resolveOperation at h ⊢
  cases hroot : s.root? o.type with
  | none => rw [hroot] at h; cases h
  | some root => exact ⟨_, rfl, rfl, rfl⟩

theorem Added.mirrors {definitions : List Definition} {definition : Definition}
    {r : Executable × List Diagnostic} (ha : Added s d definition r) (hnone : r.2 = [])
    (h : d.Mirrors (operationsOf definitions)) :
    r.1.Mirrors (operationsOf (definitions ++ [definition])) := by
  have happend : operationsOf (definitions ++ [definition]) =
      operationsOf definitions ++ operationsOf [definition] := List.filterMap_append
  have hsignatures := h.signatures
  rw [allOperations] at hsignatures
  rw [happend]
  cases ha with
  | refused hfound => exact absurd hnone hfound
  | fragment =>
      rw [show operationsOf [.fragment _] = [] from rfl, List.append_nil]
      exact ⟨h.signatures, h.alone⟩
  | anonymous hname halone hfirst =>
      obtain ⟨resolved, hresolved, hsame, htype⟩ := resolveOperation_ok hnone
      rw [halone, hfirst] at hsignatures
      have hempty : operationsOf definitions = [] := List.map_eq_nil_iff.mp hsignatures.symm
      refine ⟨?_, fun _ => hfirst⟩
      rw [hempty, allOperations, hresolved, hfirst]
      simp [operationsOf, Operation.signature, Operation.name?, hsame, htype]
  | named hname hnew =>
      obtain ⟨hambiguous, hfound⟩ := List.append_eq_nil_iff.mp hnone
      obtain ⟨resolved, hresolved, hsame, htype⟩ := resolveOperation_ok hfound
      -- an operation without name would be ambiguous
      have hanonymous : d.anonymous = none := by
        cases ha : d.anonymous with
        | none => rfl
        | some a => rw [ha] at hambiguous; cases hambiguous
      rw [hanonymous] at hsignatures
      refine ⟨?_, fun hsome => ?_⟩
      · rw [List.map_append, ← hsignatures, allOperations, hresolved, hanonymous]
        simp [operationsOf, Operation.signature, Operation.name?, hsame, htype]
      · rw [hanonymous] at hsome
        cases hsome

/-- Definitions put into a document one after the other, and what is wrong with them. -/
def gather (s : Schema) (definitions : List Definition) : Executable × List Diagnostic :=
  definitions.foldl (fun (d, found) definition =>
    let (d, more) := add s d definition
    (d, found ++ more)) ({}, [])

theorem gather_concat (s : Schema) (definitions : List Definition) (definition : Definition) :
    gather s (definitions ++ [definition]) =
      ((add s (gather s definitions).1 definition).1,
        (gather s definitions).2 ++ (add s (gather s definitions).1 definition).2) :=
  List.foldl_append

theorem mirrors_gather (definitions : List Definition) :
    (gather s definitions).2 = [] →
      (gather s definitions).1.Mirrors (operationsOf definitions) := by
  induction definitions using List.reverseRecOn with
  | nil => exact fun _ => mirrors_empty
  | append_singleton definitions definition ih =>
      intro hnone
      rw [gather_concat] at hnone ⊢
      obtain ⟨hbefore, hmore⟩ := List.append_eq_nil_iff.mp hnone
      exact (added s _ definition).mirrors hmore (ih hbefore)

/-- A valid document has the operations of its text. -/
theorem mirrors_of_validate {definitions : List Definition} (h : validate s definitions = .ok d) :
    d.Mirrors (operationsOf definitions) ∧ d.NamesOperations := by
  obtain ⟨rfl, -⟩ := validate_ok h
  refine ⟨mirrors_gather definitions ?_, namesOperations_resolve s definitions⟩
  unfold validate at h
  dsimp only at h
  split at h
  next hnil => exact (List.append_eq_nil_iff.mp (List.append_eq_nil_iff.mp hnil).1).2
  next => cases h

/-! ### Picking an operation -/

/-- The operation of a name is the first of all operations that have it. -/
theorem NamesOperations.find?_eq_lookup (h : d.NamesOperations) (name : String) :
    d.allOperations.find? (fun o => o.name? = some name) = d.operations.lookup name := by
  have hanonymous : d.anonymous.toList.find? (fun o => o.name? = some name) = none := by
    refine List.find?_eq_none.mpr fun o ho => ?_
    rw [h.anonymous o (Option.mem_toList.mp ho)]
    simp
  rw [allOperations, List.find?_append, hanonymous, Option.none_or]
  have hnamed := h.named
  generalize d.operations = operations at hnamed
  induction operations with
  | nil => rfl
  | cons first rest ih =>
      obtain ⟨key, o⟩ := first
      have hkey : o.name? = some key := hnamed (key, o) List.mem_cons_self
      rw [List.map_cons, List.find?_cons, List.lookup_cons,
        ih fun e he => hnamed e (List.mem_cons_of_mem _ he)]
      by_cases heq : name = key
      · subst heq
        simp [hkey]
      · have hne : key ≠ name := fun h => heq h.symm
        have hbeq : (name == key) = false := beq_eq_false_iff_ne.mpr heq
        simp [hkey, hne, hbeq]

/-- The operation that a name asks for: the first that has it, or without name the only one. -/
def pick? {α : Type} (operations : List (Operation α)) : Option String → Option (Operation α)
  | some name => operations.find? fun o => o.name? = some name
  | none      =>
      match operations with
      | [o] => some o
      | _   => none

/-- Operations with the same signatures are picked alike. -/
theorem type_pick?_congr {α β : Type} {operations : List (Operation α)}
    {others : List (Operation β)}
    (h : operations.map (·.signature) = others.map (·.signature)) (name : Option String) :
    (pick? operations name).map (·.type) = (pick? others name).map (·.type) := by
  cases name with
  | none =>
      cases operations with
      | nil =>
          obtain rfl := List.map_eq_nil_iff.mp h.symm
          rfl
      | cons o rest =>
          obtain ⟨o', rest', rfl, ho, hrest⟩ := List.map_eq_cons_iff.mp h.symm
          cases rest with
          | nil =>
              obtain rfl := List.map_eq_nil_iff.mp hrest
              exact congrArg some (congrArg Prod.snd ho.symm)
          | cons second more =>
              obtain ⟨second', more', rfl, -, -⟩ := List.map_eq_cons_iff.mp hrest
              rfl
  | some name =>
      have htype {γ : Type} (operations : List (Operation γ)) :
          (pick? operations (some name)).map (·.type) =
            ((operations.map (·.signature)).find? fun o => o.1 = some name).map (·.2) := by
        rw [List.find?_map, Option.map_map]
        rfl
      rw [htype operations, htype others, h]

theorem select_eq_pick? (h : d.NamesOperations) (name : Option String) :
    (d.select name).toOption = pick? d.allOperations name := by
  cases name with
  | some name =>
      dsimp only [pick?, select]
      rw [h.find?_eq_lookup name]
      cases d.operations.lookup name <;> rfl
  | none =>
      dsimp only [pick?, select]
      match d.allOperations with
      | [] | [_] | _ :: _ :: _ => rfl

end Executable

end Document

open Document Executable

variable {s : Schema} {d : Executable} {text : String} {definitions : List Definition}

/-- The type that a text asks for is the one of the operation that is picked from it. -/
theorem requestedType?_of_read (h : Document.read text = .ok definitions) (name : Option String) :
    requestedType? text name = (pick? (operationsOf definitions) name).map (·.type) := by
  unfold requestedType?
  rw [h]
  cases name with
  | some name => rfl
  | none =>
      dsimp only
      generalize hops : operationsOf definitions = operations
      split
      · rename_i o hone
        obtain rfl : operations = [o] := hops.symm.trans hone
        rfl
      · rename_i hnone
        rcases operations with _ | ⟨o, _ | ⟨_, _⟩⟩
        · rfl
        · exact absurd hops (hnone o)
        · rfl

/-- **Both tell one type** of a valid text: that of its definitions is the one of the operation that
is selected from the document, and neither tells one where the other does not. -/
theorem requestedType?_eq_select (hread : Document.read text = .ok definitions)
    (h : Validation.validate s definitions = .ok d) (name : Option String) :
    requestedType? text name = (d.select name).toOption.map (·.type) := by
  obtain ⟨hmirrors, hnames⟩ := mirrors_of_validate h
  rw [requestedType?_of_read hread, select_eq_pick? hnames]
  exact type_pick?_congr hmirrors.signatures.symm name

end GraphServe
