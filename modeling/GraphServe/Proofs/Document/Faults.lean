import GraphServe.Document.Reader

/-!
# Documents — faults are not taken back

Reading goes on behind a fault and never takes one back (`Grows`): a fault that was met where
reading started is a fault of the document.  Each step of the reader has a lemma, those under fuel
by induction on it.

A text that begins with a name that no definition starts with is therefore no document
(`read_error_of_name`), whatever follows the name.
-/

namespace GraphServe.Document.Reader

variable {α β : Type}

/-- A step of reading that takes no fault back. -/
class Grows (m : Read α) : Prop where
  suffix : ∀ s, s.faults <:+ (m s).2.faults

namespace Grows

instance (a : α) : Grows (pure a) := ⟨fun _ => List.suffix_rfl⟩

instance : Grows (get : Read State) := ⟨fun _ => List.suffix_rfl⟩

instance bind {m : Read α} {f : α → Read β} [hm : Grows m] [hf : ∀ a, Grows (f a)] :
    Grows (m >>= f) :=
  ⟨fun s => (hm.suffix s).trans ((hf (m s).1).suffix (m s).2)⟩

instance {f : α → β} {m : Read α} [hm : Grows m] : Grows (f <$> m) := ⟨fun s => hm.suffix s⟩

instance {c : Prop} [Decidable c] {m n : Read α} [Grows m] [Grows n] :
    Grows (if c then m else n) := by
  split <;> assumption

/-- What follows may depend on what was given. -/
theorem andThen {m : Read α} {f : α → Read β} [Grows m] (hf : ∀ a, Grows (f a)) :
    Grows (m >>= f) := bind

/-- A change of anything but the faults. -/
theorem modify {f : State → State} (h : ∀ s, (f s).faults = s.faults) : Grows (modify f) :=
  ⟨fun s => (congrArg (s.faults <:+ ·) (h s)).mpr List.suffix_rfl⟩

end Grows

-- the instance of a long step is as large as the step.
set_option synthInstance.maxSize 4096

/-! ### Tokens -/

instance {f : Fault} : Grows (note f) where
  suffix s := by
    show s.faults <:+ (if s.heeds then { s with faults := f :: s.faults } else s).faults
    split
    · exact List.suffix_cons f s.faults
    · exact List.suffix_rfl

instance : Grows peek := by unfold peek; infer_instance

instance : Grows peekSecond := by unfold peekSecond; infer_instance

instance : Grows here := by unfold here; infer_instance

instance : Grows pop := .modify fun _ => rfl

instance : Grows skip := .modify fun _ => rfl

instance : Grows bump := by unfold bump; infer_instance

instance {text : String} : Grows (fail text) :=
  .andThen fun t? => by cases t? <;> infer_instance

instance {text : String} : Grows (failAndBump text) := by unfold failAndBump; infer_instance

instance {text : String} : Grows (at? text) :=
  .andThen fun t? => by cases t? <;> infer_instance

instance : Grows atName := by unfold atName; infer_instance

instance : Grows atNameOrString := by unfold atNameOrString; infer_instance

instance {word : String} : Grows (atWord word) :=
  .andThen fun t? => by cases t? <;> infer_instance

instance {text label : String} : Grows (expect text label) := by
  refine .andThen fun found => ?_
  cases found with
  | true => exact inferInstanceAs (Grows bump)
  | false => exact .andThen fun t? => by cases t? <;> infer_instance

instance {text : String} : Grows (accept text) := by unfold accept; infer_instance

instance {word : String} : Grows (acceptWord word) := by unfold acceptWord; infer_instance

instance {missing : String} : Grows (name missing) :=
  .andThen fun t? => by cases t? <;> infer_instance

/-- The depth and whether faults still count may change; what the step notes stays. -/
instance {otherwise : α} {step : Read α} [Grows step] : Grows (deeper otherwise step) := by
  have change (f : State → State) (h : ∀ s, (f s).faults = s.faults) : Grows (modify f) :=
    .modify h
  have := change (fun s => { s with heeds := false }) fun _ => rfl
  have := change (fun s => { s with depth := s.depth + 1 }) fun _ => rfl
  have := change (fun s => { s with depth := s.depth - 1 }) fun _ => rfl
  unfold deeper
  infer_instance

/-! ### Sequences -/

section Sequences

variable {starts : Read Bool} {part : Read α} [Grows starts] [Grows part]

instance {fuel : Nat} : Grows (parts.others starts part fuel) := by
  induction fuel with
  | zero => exact inferInstanceAs (Grows (pure _))
  | succ n ih => unfold parts.others; infer_instance

instance {missing : String} {fuel : Nat} : Grows (parts starts part missing fuel) := by
  cases fuel with
  | zero => exact inferInstanceAs (Grows (pure _))
  | succ n => unfold parts; infer_instance

omit [Grows starts] in
instance {divider : String} {fuel : Nat} : Grows (divided.others divider part fuel) := by
  induction fuel with
  | zero => exact inferInstanceAs (Grows (pure _))
  | succ n ih => unfold divided.others; infer_instance

omit [Grows starts] in
instance {divider : String} {fuel : Nat} : Grows (divided divider part fuel) := by
  unfold divided; infer_instance

end Sequences

instance {inside : Read (List α)} [Grows inside] : Grows (braced inside) := by
  unfold braced; infer_instance

/-! ### Types and values -/

instance : Grows typeRef?.requiredMark := by unfold typeRef?.requiredMark; infer_instance

instance {fuel : Nat} : Grows (typeRef? fuel) := by
  induction fuel with
  | zero => exact inferInstanceAs (Grows (pure _))
  | succ n ih =>
      refine .andThen fun t? => ?_
      cases t? with
      | none => infer_instance
      | some t =>
          dsimp only
          split
          · exact .andThen fun _ => .andThen fun item => by cases item <;> infer_instance
          · infer_instance

instance {fuel : Nat} : Grows (typeRef fuel) :=
  .andThen fun t => by cases t <;> infer_instance

instance : Grows atType := by unfold atType; infer_instance

instance {skips : Bool} {text : String} : Grows (value.refuse skips text) := by
  unfold value.refuse; infer_instance

instance {skips : Bool} {t : Token} : Grows (value.noValue skips t) := by
  unfold value.noValue; infer_instance

/-- The three functions that read values use each other with less fuel. -/
theorem grows_values (fuel : Nat) :
    (∀ constant skips, Grows (value constant skips fuel)) ∧
      (∀ constant, Grows (values constant fuel)) ∧
      (∀ constant, Grows (objectFields constant fuel)) := by
  induction fuel with
  | zero =>
      have none {γ : Type} (c : γ) : Grows (pure c) := inferInstance
      exact ⟨fun _ _ => none _, fun _ => none _, fun _ => none _⟩
  | succ n ih =>
      -- by the fuel, which all three hand on with one less
      obtain ⟨hvalue, hvalues, hfields⟩ := ih
      refine ⟨fun constant skips => ?_, fun constant => ?_, fun constant => ?_⟩
      · refine .andThen fun t? => ?_
        cases t? with
        | none => infer_instance
        | some t => dsimp only; split <;> infer_instance
      · refine .andThen fun t? => ?_
        cases t? with
        | none => infer_instance
        | some t =>
            dsimp only
            split
            · infer_instance
            · refine .andThen fun closed => ?_
              split
              · infer_instance
              · exact .andThen fun v? => by cases v? <;> infer_instance
      · unfold objectFields; infer_instance

instance {constant skips : Bool} {fuel : Nat} : Grows (value constant skips fuel) :=
  (grows_values fuel).1 constant skips

instance {fuel : Nat} : Grows (default? fuel) := by unfold default?; infer_instance

instance {constant : Bool} {fuel : Nat} : Grows (argument? constant fuel) := by
  unfold argument?; infer_instance

instance {constant : Bool} {fuel : Nat} : Grows (arguments constant fuel) := by
  unfold arguments; infer_instance

instance {constant : Bool} {fuel : Nat} : Grows (directives constant fuel) := by
  induction fuel with
  | zero => exact inferInstanceAs (Grows (pure _))
  | succ n ih => unfold directives; infer_instance

/-! ### Selections -/

/-- The four functions that read selections use each other with less fuel. -/
theorem grows_selections (fuel : Nat) :
    Grows (selectionSet fuel) ∧ (∀ found, Grows (selections found fuel)) ∧
      Grows (inlineFragment fuel) ∧ Grows (field fuel) := by
  induction fuel with
  | zero =>
      have none {γ : Type} (c : γ) : Grows (pure c) := inferInstance
      exact ⟨none _, fun _ => none _, none _, none _⟩
  | succ n ih =>
      obtain ⟨hset, hselections, hinline, hfield⟩ := ih
      refine ⟨?_, fun found => ?_, ?_, ?_⟩
      · unfold selectionSet; infer_instance
      · refine .andThen fun t? => ?_
        dsimp only
        split <;> infer_instance
      · dsimp only [inlineFragment]; infer_instance
      · dsimp only [field]; infer_instance

instance {fuel : Nat} : Grows (selectionSet fuel) := (grows_selections fuel).1

/-! ### Operations and fragments -/

instance {fuel : Nat} : Grows (variableDefinition fuel) := by
  dsimp only [variableDefinition]; infer_instance

instance {fuel : Nat} : Grows (variableDefinitions fuel) := by
  unfold variableDefinitions; infer_instance

instance : Grows operationType := by
  refine .andThen fun t? => ?_
  cases t? with
  | none => infer_instance
  | some t => dsimp only; split <;> infer_instance

instance {fuel : Nat} : Grows (operation fuel) := by dsimp only [operation]; infer_instance

instance {fuel : Nat} : Grows (fragment fuel) := by dsimp only [fragment]; infer_instance

/-! ### Definitions of a schema -/

instance : Grows description :=
  .andThen fun t? => by cases t? <;> infer_instance

instance {fuel : Nat} : Grows (inputValue fuel) := by dsimp only [inputValue]; infer_instance

instance {fuel : Nat} : Grows (argumentDefinitions fuel) := by
  unfold argumentDefinitions; infer_instance

instance {fuel : Nat} : Grows (inputFields fuel) := by unfold inputFields; infer_instance

instance {fuel : Nat} : Grows (fieldDefinition fuel) := by dsimp only [fieldDefinition]; infer_instance

instance {fuel : Nat} : Grows (fieldDefinitions fuel) := by unfold fieldDefinitions; infer_instance

instance {fuel : Nat} : Grows (enumValue fuel) := by dsimp only [enumValue]; infer_instance

instance {fuel : Nat} : Grows (enumValues fuel) := by unfold enumValues; infer_instance

instance {fuel : Nat} : Grows (interfaces fuel) := by unfold interfaces; infer_instance

instance {fuel : Nat} : Grows (unionMembers fuel) := by unfold unionMembers; infer_instance

instance : Grows root? := by dsimp only [root?]; infer_instance

instance {fuel : Nat} : Grows (roots fuel) := by
  induction fuel with
  | zero => exact inferInstanceAs (Grows (pure _))
  | succ n ih => unfold roots; infer_instance

instance {d : Option String} {fuel : Nat} : Grows (schemaDefinition d fuel) := by
  dsimp only [schemaDefinition]; infer_instance

instance {d : Option String} {fuel : Nat} : Grows (objectDefinition d fuel) := by
  dsimp only [objectDefinition]; infer_instance

instance {d : Option String} {fuel : Nat} : Grows (typeDefinition d fuel) := by
  refine .andThen fun t? => .andThen fun _ => .andThen fun n => ?_
  split <;> infer_instance

instance : Grows directiveLocation :=
  .andThen fun t? => by cases t? <;> infer_instance

instance {d : Option String} {fuel : Nat} : Grows (directiveDefinition d fuel) := by
  dsimp only [directiveDefinition]; infer_instance

instance {word : String} {fuel : Nat} : Grows (schemaPart word fuel) := by
  refine .andThen fun place => .andThen fun d => ?_
  dsimp only
  split <;> infer_instance

instance {fuel : Nat} : Grows (schemaExtension fuel) := by dsimp only [schemaExtension]; infer_instance

instance {word : String} {fuel : Nat} : Grows (typeExtension word fuel) := by
  refine .andThen fun n => .andThen fun extends? => ?_
  dsimp only
  -- the interfaces and the mark of a body depend on the word, as does what follows.
  split <;> refine .andThen fun is => .andThen fun directed => .andThen fun ds => ?_ <;>
    split <;> refine .andThen fun bodied => ?_ <;> split <;> infer_instance

instance {fuel : Nat} : Grows (extension? fuel) := by dsimp only [extension?]; infer_instance

/-! ### Documents -/

instance {word : String} {fuel : Nat} : Grows (definition? word fuel) := by
  unfold definition?; infer_instance

instance {fuel : Nat} : Grows (definitions fuel) := by
  induction fuel with
  | zero => exact inferInstanceAs (Grows (pure _))
  | succ n ih =>
      refine .andThen fun t? => ?_
      cases t? <;> infer_instance

/-! ### Words that start no definition -/

/-- The words that definitions start with. -/
def definitionWords : List String :=
  schemaWords ++ ["extend", "fragment", "query", "mutation", "subscription", "\x7b"]

theorem definition?_of_not_mem {word : String} (h : word ∉ definitionWords) (fuel : Nat) :
    definition? word fuel = do
      failAndBump "expected definition"
      return none := by
  simp only [definitionWords, List.mem_append, List.mem_cons, List.not_mem_nil, or_false,
    not_or] at h
  obtain ⟨hschema, hextend, hfragment, hquery, hmutation, hsubscription, hbrace⟩ := h
  simp [definition?, hschema, hextend, hfragment, hquery, hmutation, hsubscription, hbrace]

/-- A fault that a first step noted is there after the next. -/
theorem faults_bind {m : Read α} {f : α → Read β} [hf : ∀ a, Grows (f a)] {s : State}
    (h : (m s).2.faults ≠ []) : ((m >>= f) s).2.faults ≠ [] := by
  intro hnil
  -- faults are put in front of those before
  have hsuffix : (m s).2.faults <:+ ((m >>= f) s).2.faults := (hf (m s).1).suffix (m s).2
  rw [hnil] at hsuffix
  exact h (List.suffix_nil.mp hsuffix)

theorem skip_bind {f : Unit → Read β} {s s' : State} (hskip : skip s = ((), s')) :
    (skip >>= f) s = f () s' := by
  show f (skip s).1 (skip s).2 = f () s'
  rw [hskip]

/-- Looking at the next token changes nothing. -/
theorem peek_bind {f : Option Token → Read β} {s : State} {t : Token}
    (hpeek : s.rest.head? = some t) : (peek >>= f) s = f (some t) s := by
  show f s.rest.head? s = f (some t) s
  rw [hpeek]

theorem faults_fail {s : State} {t : Token} (hpeek : s.rest.head? = some t) (hheeds : s.heeds)
    (text : String) : (fail text s).2.faults ≠ [] := by
  have hfail : fail text s = note ⟨false, text, t.place⟩ s := peek_bind hpeek
  rw [hfail]
  show (if s.heeds then { s with faults := _ :: s.faults } else s).faults ≠ []
  rw [if_pos hheeds]
  exact List.cons_ne_nil _ _

theorem faults_definitions {s : State} {t : Token} (hpeek : s.rest.head? = some t)
    (hname : t.kind = .name) (hword : t.text ∉ definitionWords) (hheeds : s.heeds) (fuel : Nat) :
    (definitions (fuel + 1) s).2.faults ≠ [] := by
  have hfirst : (definition? t.text fuel s).2.faults ≠ [] := by
    rw [definition?_of_not_mem hword]
    exact faults_bind (faults_bind (faults_fail hpeek hheeds _))
  have hread : definitions (fuel + 1) s =
      (do return (← definition? t.text fuel).toList ++ (← definitions fuel) : Read _) s := by
    rw [definitions, peek_bind hpeek]
    simp [hname, Token.isString]
  rw [hread]
  exact faults_bind hfirst

theorem faults_document {t : Token} (ts : List Token) (hname : t.kind = .name)
    (hword : t.text ∉ definitionWords) (fuel : Nat) :
    (document (fuel + 1) { rest := t :: ts }).2.faults ≠ [] := by
  have hskip : (t :: ts).dropWhile Token.isIgnored = t :: ts := by
    simp [Token.isIgnored, Token.isSpace, hname]
  have hread : document (fuel + 1) { rest := t :: ts } =
      definitions (fuel + 1) { rest := t :: ts } := by
    have hfirst : skip { rest := t :: ts } = ((), { rest := t :: ts }) :=
      congrArg (fun rest => ((), ({ rest } : State))) hskip
    rw [document, skip_bind hfirst, peek_bind (t := t) rfl]
    simp [hname]
  rw [hread]
  exact faults_definitions rfl hname hword rfl fuel

end Reader

/-- A text whose first token is a name that starts no definition is no document. -/
theorem read_error_of_name {text : String} {t : Token} {ts : List Lexeme}
    (hfirst : Lexeme.ofText text = .token t :: ts) (hname : t.kind = .name)
    (hword : t.text ∉ Reader.definitionWords) :
    ∃ faults, faults ≠ [] ∧ read text = .error faults := by
  have hfaults := Reader.faults_document (ts.filterMap Lexeme.token?) hname hword
    (4 * (ts.filterMap Lexeme.token?).length + 11)
  have htokens : (Lexeme.ofText text).filterMap Lexeme.token? = t :: ts.filterMap Lexeme.token? := by
    rw [hfirst]
    rfl
  unfold read
  simp only [htokens, List.length_cons]
  generalize (Lexeme.ofText text).filterMap Lexeme.fault? = found at *
  refine ⟨_, ?_, if_neg fun hempty => hfaults ?_⟩
  · rw [← List.length_pos_iff, List.length_mergeSort, List.length_append, List.length_reverse]
    exact Nat.add_pos_right _ (List.length_pos_iff.mpr hfaults)
  · exact List.reverse_eq_nil_iff.mp (List.append_eq_nil_iff.mp (List.isEmpty_iff.mp hempty)).2

/-! ### Keys of persisted documents -/

/-- The key that a document asked for by its hash is kept under is the text of no document. -/
theorem read_persistedKey (hash : String) :
    ∃ faults, faults ≠ [] ∧ read ("apq|" ++ hash) = .error faults := by
  have hfirst : Lexeme.ofText ("apq|" ++ hash) = .token ⟨.name, "apq", 0⟩ ::
      Lexeme.ofChars (hash.toList.length + 4) 3 ('|' :: hash.toList) := by
    have hchars : ("apq|" ++ hash).toList = 'a' :: 'p' :: 'q' :: '|' :: hash.toList := by
      rw [String.toList_append]
      rfl
    rw [Lexeme.ofText, hchars]
    rfl
  exact read_error_of_name hfirst rfl (by decide)

end GraphServe.Document
