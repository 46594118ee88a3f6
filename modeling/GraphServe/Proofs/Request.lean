import GraphServe.Proofs.Json.RoundTrip
import GraphServe.Request

/-!
# Requests — the members that carry a request

A request stands in the members of an object: texts under `query` and `operationName` and objects
under `variables` and `extensions`, each of which may be missing or `null` (`Request.Carries`).  What
is read from JSON that spells such an object is the request (`Request.run_decoder`), and what a
request is written as carries it (`Request.inJson_toJson`).
-/

namespace GraphServe.Request

open Json

/-- What can stand in a request: a text or `null` under the names of texts, an object or `null`,
nested no deeper than some levels, under the names of objects. -/
inductive IsMember (depth : Nat) : String × Json → Prop where
  | query (text? : Option String) : IsMember depth ("query", ofString? text?)
  | operationName (name? : Option String) : IsMember depth ("operationName", ofString? name?)
  | noVariableValues : IsMember depth ("variables", .null)
  | variableValues {values : Members} (nests : (Json.object values).NestsWithin depth) :
      IsMember depth ("variables", .object values)
  | noExtensions : IsMember depth ("extensions", .null)
  | extensions {values : Members} (nests : (Json.object values).NestsWithin depth) :
      IsMember depth ("extensions", .object values)

/-- The members of an object carry a request. -/
structure Carries (depth : Nat) (members : Members) (r : Request) : Prop where
  typed          : ∀ m ∈ members, IsMember depth m
  query          : (members.get? "query").bind string? = r.query
  operationName  : (members.get? "operationName").bind string? = r.operationName
  variableValues : ((members.get? "variables").bind object?).getD [] = r.variableValues
  extensions     : ((members.get? "extensions").bind object?).getD [] = r.extensions

/-- How deep variables and extensions can be nested: the request itself is an object. -/
def valueLevels : Nat := 126

/-- Bytes are JSON that carries a request. -/
def InJson (bytes : List UInt8) (r : Request) : Prop :=
  ∃ members, Spells bytes (.object members) ∧ Carries valueLevels members r

/-- A request with one member put into it. -/
def withMember (r : Request) (m : String × Json) : Request :=
  if m.1 = "query" then { r with query := m.2.string? }
  else if m.1 = "operationName" then { r with operationName := m.2.string? }
  else if m.1 = "variables" then { r with variableValues := m.2.object?.getD [] }
  else if m.1 = "extensions" then { r with extensions := m.2.object?.getD [] }
  else r

variable {depth : Nat} {members : Members} {r : Request}

/-- Members under names of their own put what is found under each name. -/
theorem foldl_withMember (distinct : (members.map Prod.fst).Nodup) (r : Request) :
    members.foldl withMember r =
      { query := ((members.get? "query").map string?).getD r.query
        operationName := ((members.get? "operationName").map string?).getD r.operationName
        variableValues :=
          ((members.get? "variables").map (·.object?.getD [])).getD r.variableValues
        extensions := ((members.get? "extensions").map (·.object?.getD [])).getD r.extensions } := by
  induction members generalizing r with
  | nil => rfl
  | cons m members ih =>
      obtain ⟨name, v⟩ := m
      obtain ⟨hnew, distinct⟩ := List.nodup_cons.mp distinct
      have hnone : Members.get? members name = none := Members.get?_eq_none.mpr hnew
      rw [List.foldl_cons, ih distinct]
      by_cases hquery : name = "query"
      · subst hquery
        simp [withMember, hnone]
      by_cases hname : name = "operationName"
      · subst hname
        simp [withMember, hnone]
      by_cases hvariables : name = "variables"
      · subst hvariables
        simp [withMember, hnone]
      by_cases hextensions : name = "extensions"
      · subst hextensions
        simp [withMember, hnone]
      · simp [withMember, hquery, hname, hvariables, hextensions]

/-- What members carry is what they put into an empty request. -/
theorem Carries.foldl_eq (h : Carries depth members r) (distinct : (members.map Prod.fst).Nodup) :
    members.foldl withMember {} = r := by
  rw [foldl_withMember distinct]
  obtain ⟨query, operationName, variableValues, extensions⟩ := r
  have hbind {α β : Type} (v : Option α) (f : α → Option β) : (v.map f).getD none = v.bind f := by
    cases v <;> rfl
  have hmap (v : Option Json) : (v.map (·.object?.getD [])).getD [] = (v.bind object?).getD [] := by
    cases v <;> rfl
  simp only [hbind, hmap, h.query, h.operationName, h.variableValues, h.extensions]

/-- A text that counts as absent still does. -/
theorem nonempty_bind (text : String) : (nonempty text).bind nonempty = nonempty text := by
  unfold nonempty
  split
  · rfl
  · rename_i h
    exact if_neg h

/-! ### Reading -/

theorem optionalMembers_of_null {node : Node} (h : node.Holds .null) :
    optionalMembers depth node = .ok [] := by
  rw [optionalMembers, Decoder.option_of_null h]
  rfl

theorem optionalMembers_of_holds {node : Node} {values : Members} (h : node.Holds (.object values))
    (nests : (Json.object values).NestsWithin depth) : optionalMembers depth node = .ok values := by
  rw [optionalMembers, Decoder.option_of_holds h nofun (Decoder.members_of_holds h nests)]
  rfl

theorem optionalString_of_holds {node : Node} {text? : Option String}
    (h : node.Holds (ofString? text?)) : Decoder.option Decoder.string depth node = .ok text? := by
  cases text? with
  | none => exact Decoder.option_of_null h depth
  | some text => exact Decoder.option_of_holds h nofun (Decoder.string_of_holds h depth)

/-- A member is read into a request. -/
theorem read_member {m : String × Json} (hm : IsMember depth m) (r : Request) :
    ∃ read, recordReader.reader? m.1 = some read ∧
      ∀ node : Node, node.Holds m.2 → read r depth node = .ok (withMember r m) := by
  cases hm with
  | query text? =>
      refine ⟨_, rfl, ?_⟩
      intro node h
      dsimp only
      rw [optionalString_of_holds h]
      cases text? <;> rfl
  | operationName name? =>
      refine ⟨_, rfl, ?_⟩
      intro node h
      dsimp only
      rw [optionalString_of_holds h]
      cases name? <;> rfl
  | noVariableValues =>
      refine ⟨_, rfl, ?_⟩
      intro node h
      dsimp only
      rw [optionalMembers_of_null h]
      rfl
  | variableValues nests =>
      refine ⟨_, rfl, ?_⟩
      intro node h
      dsimp only
      rw [optionalMembers_of_holds h nests]
      rfl
  | noExtensions =>
      refine ⟨_, rfl, ?_⟩
      intro node h
      dsimp only
      rw [optionalMembers_of_null h]
      rfl
  | extensions nests =>
      refine ⟨_, rfl, ?_⟩
      intro node h
      dsimp only
      rw [optionalMembers_of_holds h nests]
      rfl

/-- Members that can stand in a request are read into it, one after the other. -/
theorem reads_of_typed (typed : ∀ m ∈ members, IsMember depth m) (r : Request) :
    recordReader.Reads depth r members (members.foldl withMember r) := by
  induction members generalizing r with
  | nil => exact .nil r
  | cons m members ih =>
      obtain ⟨hm, hmembers⟩ := List.forall_mem_cons.mp typed
      obtain ⟨read, hreader, hread⟩ := read_member hm r
      exact .cons hreader hread (ih hmembers _)

/-- **A request is read** from a tree whose members carry it. -/
theorem decoder_of_holds {node : Node} (h : node.Holds (.object members))
    (hr : Carries depth members r) : decoder (depth + 1) node = .ok r := by
  have hdistinct : (members.map Prod.fst).Nodup := by
    cases h with
    | scalar h => exact h.elim
    | object start distinct h => exact distinct
  have hreads := reads_of_typed hr.typed {}
  rw [hr.foldl_eq hdistinct] at hreads
  exact Decoder.record_of_holds h hreads fun _ hname => absurd hname List.not_mem_nil

theorem run_decoder {bytes : List UInt8} (h : InJson bytes r) :
    Decoder.run decoder bytes = .ok r := by
  obtain ⟨members, hspells, hcarries⟩ := h
  exact Decoder.run_of_spells hspells fun node hnode => decoder_of_holds hnode hcarries

/-! ### Writing -/

/-- What a request is written as carries it. -/
theorem carries_toJson (hvariables : (Json.object r.variableValues).NestsWithin depth)
    (hextensions : (Json.object r.extensions).NestsWithin depth) :
    ∃ members, r.toJson = .object members ∧ Carries depth members r := by
  obtain ⟨query, operationName, variableValues, extensions⟩ := r
  refine ⟨_, rfl, fun m hm => ?_, ?_, ?_, ?_, ?_⟩
  · simp only [List.mem_append] at hm
    rcases hm with ((hm | hm) | hm) | hm
    · cases query with
      | none => cases hm
      | some text => exact List.mem_singleton.mp hm ▸ .query (some text)
    · cases operationName with
      | none => cases hm
      | some name => exact List.mem_singleton.mp hm ▸ .operationName (some name)
    · split at hm
      · cases hm
      · exact List.mem_singleton.mp hm ▸ .variableValues hvariables
    · split at hm
      · cases hm
      · exact List.mem_singleton.mp hm ▸ .extensions hextensions
  all_goals
    cases query <;> cases operationName <;> cases variableValues <;> cases extensions <;> rfl

/-- What a request is written as can be read. -/
theorem isWritable_toJson (hvariables : (Json.object r.variableValues).IsWritable)
    (hextensions : (Json.object r.extensions).IsWritable) : r.toJson.IsWritable := by
  obtain ⟨query, operationName, variableValues, extensions⟩ := r
  refine .object ?_ fun m hm => ?_
  · cases query <;> cases operationName <;> cases variableValues <;> cases extensions <;>
      exact of_decide_eq_true rfl
  · simp only [List.mem_append] at hm
    rcases hm with ((hm | hm) | hm) | hm
    · cases query with
      | none => cases hm
      | some text => exact List.mem_singleton.mp hm ▸ .string text
    · cases operationName with
      | none => cases hm
      | some name => exact List.mem_singleton.mp hm ▸ .string name
    · split at hm
      · cases hm
      · exact List.mem_singleton.mp hm ▸ hvariables
    · split at hm
      · cases hm
      · exact List.mem_singleton.mp hm ▸ hextensions

/-- **What a request is written as is JSON that carries it.** -/
theorem inJson_toJson (hvariables : (Json.object r.variableValues).IsWritable)
    (hextensions : (Json.object r.extensions).IsWritable)
    (nests : (Json.object r.variableValues).NestsWithin valueLevels)
    (nests' : (Json.object r.extensions).NestsWithin valueLevels) : InJson r.toJson.text r := by
  obtain ⟨members, hmembers, hcarries⟩ := carries_toJson nests nests'
  exact ⟨members, hmembers ▸ spells_text (isWritable_toJson hvariables hextensions), hcarries⟩

end GraphServe.Request
