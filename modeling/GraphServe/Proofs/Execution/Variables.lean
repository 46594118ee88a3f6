import GraphServe.Execution.Variables
import GraphServe.Proofs.Json.Value

/-!
# Variables — errors of coercion

Whatever a request provides for its variables, an error of their coercion has the code of a failed
validation (`Variables.ofRequest_code`).
-/

namespace GraphServe

open Document

/-- The code that an error was given when it was made. -/
def Error.IsCoded (code : Error.Code) (e : Error) : Prop :=
  e.extensions = [("code", .string code.text)]

theorem Error.IsCoded.unique {e : Error} {code other : Error.Code} (h : e.IsCoded code)
    (h' : e.IsCoded other) : code = other := by
  have htexts : code.text = other.text := by
    have := h.symm.trans h'
    simpa using this
  revert htexts
  cases code <;> cases other <;> decide

namespace Variables

variable {α β : Type}

/-- Either something is given, or an error with the code of a failed validation. -/
def Validates (r : Except Error α) : Prop := ∀ e, r = .error e → e.IsCoded .validationFailed

theorem validates_ok (a : α) : Validates (.ok a) := fun e h => by cases h

theorem validates_mismatch (path : Path) (message : String) :
    Validates (.error (mismatch path message) : Except Error α) := fun e h => by
  cases h
  rfl

theorem validates_otherKind (path : Path) (value : Json) (type : String) :
    Validates (.error (otherKind path value type) : Except Error α) :=
  validates_mismatch path _

theorem Validates.map {r : Except Error α} (h : Validates r) (f : α → β) :
    Validates (r.map f) := fun e he => by
  cases r with
  | ok a => cases he
  | error _ => cases he; exact h e rfl

theorem Validates.bind {r : Except Error α} {f : α → Except Error β} (h : Validates r)
    (hf : ∀ a, Validates (f a)) : Validates (r >>= f) := fun e he => by
  cases r with
  | ok a => exact hf a e he
  | error _ => cases he; exact h e rfl

theorem validates_coerceScalar (type : String) (value : Json) (path : Path) :
    Validates (coerceScalar type value path) := by
  have accept (fits : Bool) : Validates
      (if fits then .ok value else .error (otherKind path value type)) := by
    split
    · exact validates_ok value
    · exact validates_otherKind path value type
  unfold coerceScalar
  split
  · split
    · split
      · exact validates_ok _
      · split
        · exact validates_mismatch path _
        · exact validates_otherKind path _ type
    · exact validates_otherKind path _ type
  · repeat' split
    all_goals first | exact accept _ | exact validates_ok value

theorem validates_coerceEnum (type : String) (members : List EnumValue) (value : Json)
    (path : Path) : Validates (coerceEnum type members value path) := by
  unfold coerceEnum
  split
  · split
    · exact validates_ok _
    · exact validates_mismatch path _
  · exact validates_otherKind path _ type

/-- The members of an object come with coercions that validate. -/
def AllValidate (members : List (String × (TypeRef → Path → Except Error Json))) : Prop :=
  ∀ m ∈ members, ∀ type path, Validates (m.2 type path)

variable {members : List (String × (TypeRef → Path → Except Error Json))}

theorem validates_coerceFields (h : AllValidate members) (path : Path) (fields : List InputValue)
    (done : Json.Members) : Validates (coerceFields members path fields done) := by
  induction fields generalizing done with
  | nil => exact validates_ok done
  | cons field fields ih =>
      unfold coerceFields
      cases hm : members.lookup field.name with
      | some coerceMember =>
          exact (h _ (mem_of_lookup hm) _ _).bind fun value => ih _
      | none =>
          cases field.default? with
          | some default => exact ih _
          | none =>
              dsimp only
              split
              · exact validates_mismatch _ _
              · exact ih done

theorem validates_coerceNamed (s : Schema) (type : String) (value : Json) (h : AllValidate members)
    (path : Path) : Validates (coerceNamed s type value members path) := by
  unfold coerceNamed
  split
  · exact validates_coerceScalar type value path
  · exact validates_coerceEnum type _ value path
  · split
    · split
      · exact validates_mismatch _ _
      · exact (validates_coerceFields h path _ []).map _
    · exact validates_otherKind path _ type
  · exact validates_mismatch path _

theorem allValidate_nil : AllValidate [] := fun _ hm => absurd hm List.not_mem_nil

mutual

/-- By the shape of the value, as it is coerced. -/
theorem validates_coerce (s : Schema) :
    ∀ (value : Json) (type : TypeRef) (path : Path), Validates (coerce s value type path)
  | .null, type, path => by
      unfold coerce
      split
      · exact validates_mismatch path _
      · exact validates_ok _
  | .list items, .list item _, path => by
      unfold coerce
      exact (validates_coerceItems s items item path 0).bind fun items => validates_ok _
  | .list items, .named name _, path => by
      unfold coerce
      exact validates_coerceNamed s name _ allValidate_nil path
  | .object fields, type, path => by
      unfold coerce
      exact (validates_coerceNamed s _ _ (allValidate_coerceMembers s fields) path).map _
  | .bool b, type, path => by
      unfold coerce
      exact (validates_coerceNamed s _ _ allValidate_nil path).map _
  | .int n, type, path => by
      unfold coerce
      exact (validates_coerceNamed s _ _ allValidate_nil path).map _
  | .float x, type, path => by
      unfold coerce
      exact (validates_coerceNamed s _ _ allValidate_nil path).map _
  | .string t, type, path => by
      unfold coerce
      exact (validates_coerceNamed s _ _ allValidate_nil path).map _

theorem validates_coerceItems (s : Schema) :
    ∀ (items : List Json) (type : TypeRef) (path : Path) (i : Nat),
      Validates (coerceItems s items type path i)
  | [], type, path, i => by
      unfold coerceItems
      exact validates_ok []
  | item :: items, type, path, i => by
      unfold coerceItems
      exact (validates_coerce s item type _).bind fun first =>
        (validates_coerceItems s items type path (i + 1)).bind fun rest => validates_ok _

theorem allValidate_coerceMembers (s : Schema) :
    ∀ members : List (String × Json), AllValidate (coerceMembers s members)
  | [] => by
      unfold coerceMembers
      exact allValidate_nil
  | (key, value) :: rest => by
      unfold coerceMembers
      intro m hm type path
      rcases List.mem_cons.mp hm with rfl | hrest
      · exact validates_coerce s value type path
      · exact allValidate_coerceMembers s rest m hrest type path

end

theorem validates_coerceAll (s : Schema) (values : Json.Members)
    (definitions : List VariableDefinition) (done : Json.Members) :
    Validates (coerceAll s values definitions done) := by
  induction definitions generalizing done with
  | nil => exact validates_ok done
  | cons definition definitions ih =>
      unfold coerceAll
      cases values.get? definition.name with
      | some value => exact (validates_coerce s value _ _).bind fun value => ih _
      | none =>
          cases definition.default? with
          | some default => exact ih _
          | none =>
              dsimp only
              split
              · exact validates_mismatch _ _
              · exact ih done

/-- An error of coercing variables has the code of a failed validation. -/
theorem ofRequest_code {s : Schema} {operation : Operation α} {values : Json.Members} {e : Error}
    (h : ofRequest s operation values = .error e) : e.IsCoded .validationFailed :=
  validates_coerceAll s values operation.variableDefinitions [] e h

end Variables

end GraphServe
