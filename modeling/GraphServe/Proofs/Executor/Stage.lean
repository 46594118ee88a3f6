import GraphServe.Executor

/-!
# Executors — preparing operations in steps

What requests share is the cache of documents and what extensions remember.  The preparation of one
operation is cut where it uses these (`Stage`), so that each step (`Stage.advance`) uses at most one
of them once.  Taken without a break the steps are `Executor.prepare` (`Stage.advanceBy_start`), and
each of them brings the answer nearer (`Stage.left_advance`).
-/

namespace GraphServe

open Document

/-- What the preparation of an operation gives. -/
abbrev Answer := Except Refusal OperationContext

/-- How far the preparation of an operation has come. -/
inductive Stage where
  /-- The hooks on the parameters run from some extension on. -/
  | hooking (asked : Params) (i : Nat) (params : Params) (stats : Stats)
  /-- The document of a text is looked for. -/
  | seeking (params : Params) (text : String) (context : OperationContext)
  /-- The document is there.  If it was read, it has a key under which to keep it. -/
  | keeping (params : Params) (text : String) (context : OperationContext) (d : Executable)
      (key? : Option String)
  /-- The hooks on the operation run from some extension on. -/
  | checking (i : Nat) (context : OperationContext)
  | answered (answer : Answer)

namespace Stage

/-- The first stage for some parameters. -/
def start (asked : Params) : Stage := hooking asked 0 asked {}

/-- What is known of an operation when the document is looked for. -/
def contextOf (asked params : Params) (stats : Stats) : OperationContext :=
  { OperationContext.ofParams asked with
    stats, rawQuery := params.query.getD "", operationName := params.operationName }

theorem rawQuery_contextOf (asked : Params) (stats : Stats) {params : Params} {text : String}
    (h : params.query = some text) : (contextOf asked params stats).rawQuery = text := by
  rw [contextOf, h, Option.getD_some]

/-- What comes after the hooks of some extensions on the parameters. -/
def hooked (asked : Params) (i : Nat) (outcome : ParamsOutcome) : Stage :=
  match outcome.error with
  | some e => answered <| .error
      ⟨{ OperationContext.ofParams asked with stats := outcome.stats }, [e]⟩
  | none   => hooking asked i outcome.params outcome.stats

/-- What comes after all hooks on the parameters. -/
def ready (asked params : Params) (stats : Stats) : Stage :=
  match params.query with
  | some text => seeking params text (contextOf asked params stats)
  | none      => answered <| .error
      ⟨contextOf asked params stats, [Executor.missingText params.extensions]⟩

/-- What comes after the hooks of some extensions on the operation. -/
def checked (i : Nat) (outcome : ContextOutcome) : Stage :=
  match outcome.error with
  | some e => answered (.error ⟨outcome.context, [e]⟩)
  | none   => checking i outcome.context

/-- What comes after a look into the cache of documents: a text is read if nothing is found. -/
def sought (s : Schema) (params : Params) (text : String) (context : OperationContext) :
    Option Executable → Stage
  | some d => keeping params text context d none
  | none   =>
      match Executor.readDocument s text with
      | .ok d         =>
          keeping params text context d (some (Executor.documentKey context.stats text))
      | .error errors => answered (.error ⟨context, errors⟩)

/-- What comes after the selection of an operation. -/
def selected : Except Refusal OperationContext → Stage
  | .ok context    => checking 0 context
  | .error refusal => answered (.error refusal)

/-- The documents once one is kept. -/
def keep (documents : Cache Executable) (d : Executable) : Option String → Cache Executable
  | some key => documents.add key d
  | none     => documents

/-- One step: a hook, a look into the cache of documents, or a document kept there. -/
def advance (x : Executor) : Stage → Stage × Executor
  | hooking asked i params stats =>
      match x.extensions[i]? with
      | some e =>
          let (outcome, e) := e.onParams params stats
          (hooked asked (i + 1) outcome, { x with extensions := x.extensions.set i e })
      | none   => (ready asked params stats, x)
  | seeking params text context =>
      let (found, documents) := x.documents.get (Executor.documentKey context.stats text)
      (sought x.service.schema params text context found, { x with documents })
  | keeping params _ context d key? =>
      (selected (Executor.selectOperation x.service.schema params d context),
        { x with documents := keep x.documents d key? })
  | checking i context =>
      match x.extensions[i]? with
      | some e =>
          let (outcome, e) := e.onContext x.service context
          (checked (i + 1) outcome, { x with extensions := x.extensions.set i e })
      | none   => (answered (.ok context), x)
  | answered answer => (answered answer, x)

/-- Some steps without a break. -/
def advanceBy (x : Executor) (s : Stage) : Nat → Stage × Executor
  | 0     => (s, x)
  | n + 1 => advanceBy (s.advance x).2 (s.advance x).1 n

variable {x : Executor} {s : Stage} {asked params : Params} {stats : Stats}
  {context : OperationContext} {e : Extension} {i : Nat}

theorem advance_hooking (h : x.extensions[i]? = some e) :
    (hooking asked i params stats).advance x =
      (hooked asked (i + 1) (e.onParams params stats).1,
        { x with extensions := x.extensions.set i (e.onParams params stats).2 }) := by
  simp only [advance, h]

theorem advance_hooking_none (h : x.extensions[i]? = none) :
    (hooking asked i params stats).advance x = (ready asked params stats, x) := by
  simp only [advance, h]

theorem advance_checking (h : x.extensions[i]? = some e) :
    (checking i context).advance x =
      (checked (i + 1) (e.onContext x.service context).1,
        { x with extensions := x.extensions.set i (e.onContext x.service context).2 }) := by
  simp only [advance, h]

theorem advance_checking_none (h : x.extensions[i]? = none) :
    (checking i context).advance x = (answered (.ok context), x) := by
  simp only [advance, h]

theorem advanceBy_one (x : Executor) (s : Stage) : s.advanceBy x 1 = s.advance x := rfl

theorem advanceBy_add (x : Executor) (s : Stage) (m n : Nat) :
    s.advanceBy x (m + n) =
      (s.advanceBy x m).1.advanceBy (s.advanceBy x m).2 n := by
  induction m generalizing x s with
  | zero => rw [Nat.zero_add, advanceBy]
  | succ m ih => rw [Nat.add_right_comm, advanceBy, ih, advanceBy]

@[simp] theorem advanceBy_answered (a : Answer) (n : Nat) :
    (answered a).advanceBy x n = (answered a, x) := by
  induction n with
  | zero => rfl
  | succ n ih => exact ih

/-! ### Hooks without a break -/

/-- The hooks of all extensions that are left, by induction on these.  The first that fails ends
the preparation. -/
theorem advanceBy_hooking (asked : Params) (todo : List Extension) :
    ∀ {x : Executor} {done : List Extension} (params : Params) (stats : Stats),
      x.extensions = done ++ todo →
      (hooking asked done.length params stats).advanceBy x todo.length =
        (hooked asked (done.length + todo.length) (Executor.runParamsHooks todo params stats).1,
          { x with extensions := done ++ (Executor.runParamsHooks todo params stats).2 }) := by
  induction todo with
  | nil =>
      intro x done params stats h
      simp only [Executor.runParamsHooks]
      rw [← h]
      rfl
  | cons e rest ih =>
      intro x done params stats h
      have hfirst : x.extensions[done.length]? = some e := by simp [h]
      rw [List.length_cons, advanceBy, advance_hooking hfirst, h, Executor.runParamsHooks]
      rcases e.onParams params stats with ⟨outcome, e'⟩
      cases herror : outcome.error with
      | some error => simp [hooked, herror]
      | none =>
          -- the extension counts as done, with what it remembers now
          have := @ih { x with extensions := done ++ e' :: rest } (done ++ [e'])
            outcome.params outcome.stats (by simp)
          simp only [List.length_append, List.length_singleton] at this
          simp [hooked, herror, this, Nat.add_assoc, Nat.add_comm 1]

theorem advanceBy_checking (todo : List Extension) :
    ∀ {x : Executor} {done : List Extension} (context : OperationContext),
      x.extensions = done ++ todo →
      (checking done.length context).advanceBy x todo.length =
        (checked (done.length + todo.length) (Executor.runContextHooks x.service todo context).1,
          { x with extensions := done ++ (Executor.runContextHooks x.service todo context).2 }) := by
  induction todo with
  | nil =>
      intro x done context h
      simp only [Executor.runContextHooks]
      rw [← h]
      rfl
  | cons e rest ih =>
      intro x done context h
      have hfirst : x.extensions[done.length]? = some e := by simp [h]
      rw [List.length_cons, advanceBy, advance_checking hfirst, h, Executor.runContextHooks]
      rcases e.onContext x.service context with ⟨outcome, e'⟩
      cases herror : outcome.error with
      | some error => simp [checked, herror]
      | none =>
          have := @ih { x with extensions := done ++ e' :: rest } (done ++ [e'])
            outcome.context (by simp)
          simp only [List.length_append, List.length_singleton] at this
          simp [checked, herror, this, Nat.add_assoc, Nat.add_comm 1]

end Stage

namespace Executor

/-! ### The parts of a preparation -/

theorem length_runParamsHooks (extensions : List Extension) (params : Params) (stats : Stats) :
    (runParamsHooks extensions params stats).2.length = extensions.length := by
  induction extensions generalizing params stats with
  | nil => rfl
  | cons e rest ih =>
      rw [runParamsHooks]
      rcases e.onParams params stats with ⟨outcome, e'⟩
      cases herror : outcome.error with
      | some error => simp [herror]
      | none => simp [herror, ih]

theorem length_runContextHooks (service : Service) (extensions : List Extension)
    (context : OperationContext) :
    (runContextHooks service extensions context).2.length = extensions.length := by
  induction extensions generalizing context with
  | nil => rfl
  | cons e rest ih =>
      rw [runContextHooks]
      rcases e.onContext service context with ⟨outcome, e'⟩
      cases herror : outcome.error with
      | some error => simp [herror]
      | none => simp [herror, ih]

theorem selectOperation_ok {s : Schema} {params : Params} {d : Executable}
    {context context' : OperationContext}
    (h : selectOperation s params d context = .ok context') :
    ∃ o variableValues, d.select params.operationName = .ok o ∧
      Variables.ofRequest s o params.variableValues = .ok variableValues ∧
      context' = { context with document := some d, operation := some o, variableValues } := by
  unfold selectOperation at h
  cases ho : d.select params.operationName with
  | error e => simp only [ho] at h; cases h
  | ok o =>
      simp only [ho] at h
      cases hv : Variables.ofRequest s o params.variableValues with
      | error e => simp only [hv] at h; cases h
      | ok variableValues =>
          simp only [hv] at h
          cases h
          exact ⟨o, variableValues, rfl, hv, rfl⟩

/-- After the selection there is a refusal, or the operation with what was selected of it. -/
theorem selected_cases {s : Schema} {params : Params} {d : Executable} {context : OperationContext}
    {P : Stage → Prop} (refused : ∀ refusal, P (.answered (.error refusal)))
    (selected : ∀ o variableValues, P (.checking 0
      { context with document := some d, operation := some o, variableValues })) :
    P (Stage.selected (selectOperation s params d context)) := by
  cases hselect : selectOperation s params d context with
  | error refusal => exact refused refusal
  | ok context' =>
      obtain ⟨o, variableValues, -, -, rfl⟩ := selectOperation_ok hselect
      exact selected o variableValues

/-- The end of a preparation: the hooks on the selected operation. -/
def check (x : Executor) (context : OperationContext) : Answer × Executor :=
  let (outcome, extensions) := runContextHooks x.service x.extensions context
  let x := { x with extensions }
  match outcome.error with
  | some e => (.error ⟨outcome.context, [e]⟩, x)
  | none   => (.ok outcome.context, x)

/-- What follows once there is a document. -/
def choose (x : Executor) (params : Params) (context : OperationContext) (d : Executable) :
    Answer × Executor :=
  match selectOperation x.service.schema params d context with
  | .error refusal => (.error refusal, x)
  | .ok context    => check x context

/-- What follows once there is a text. -/
def look (x : Executor) (params : Params) (context : OperationContext) (text : String) :
    Answer × Executor :=
  let (found, documents, _) := x.findDocument (documentKey context.stats text) text
  let x := { x with documents }
  match found with
  | .error errors => (.error ⟨context, errors⟩, x)
  | .ok d         => choose x params context d

/-- The answer of a preparation and the executor after it, without what it logs. -/
def answer (x : Executor) (asked : Params) : Answer × Executor :=
  ((x.prepare asked).1, (x.prepare asked).2.1)

theorem answer_of_failed_hook {x : Executor} {asked : Params} {outcome : ParamsOutcome}
    {extensions : List Extension} {e : Error}
    (hhooks : runParamsHooks x.extensions asked {} = (outcome, extensions))
    (herror : outcome.error = some e) :
    x.answer asked =
      (.error ⟨{ OperationContext.ofParams asked with stats := outcome.stats }, [e]⟩,
        { x with extensions }) := by
  simp only [answer, prepare, hhooks, herror]

theorem answer_of_missing {x : Executor} {asked : Params} {outcome : ParamsOutcome}
    {extensions : List Extension}
    (hhooks : runParamsHooks x.extensions asked {} = (outcome, extensions))
    (herror : outcome.error = none) (hquery : outcome.params.query = none) :
    x.answer asked =
      (.error ⟨Stage.contextOf asked outcome.params outcome.stats,
          [missingText outcome.params.extensions]⟩,
        { x with extensions }) := by
  simp only [answer, prepare, hhooks, herror, hquery, Stage.contextOf]

theorem answer_of_text {x : Executor} {asked : Params} {outcome : ParamsOutcome}
    {extensions : List Extension} {text : String}
    (hhooks : runParamsHooks x.extensions asked {} = (outcome, extensions))
    (herror : outcome.error = none) (hquery : outcome.params.query = some text) :
    x.answer asked =
      look { x with extensions } outcome.params
        (Stage.contextOf asked outcome.params outcome.stats) text := by
  simp only [answer, prepare, hhooks, herror, hquery, Stage.contextOf, look, choose, check]
  rcases findDocument { x with extensions } (documentKey outcome.stats text) text with
    ⟨_ | d, documents, entries⟩
  · rfl
  · dsimp only
    cases selectOperation x.service.schema outcome.params d _ with
    | error refusal => rfl
    | ok context =>
        dsimp only
        cases (runContextHooks x.service extensions context).1.error with
        | none => rfl
        | some e => rfl

end Executor

namespace Stage

/-! ### A whole preparation without a break -/

/-- The steps that a preparation takes at most, for some number of extensions. -/
def stepsFor (extensions : Nat) : Nat := extensions + (3 + (extensions + 1))

theorem advanceBy_check (x : Executor) (context : OperationContext) :
    (checking 0 context).advanceBy x (x.extensions.length + 1) =
      (answered (x.check context).1, (x.check context).2) := by
  have hhooks := @advanceBy_checking x.extensions x [] context rfl
  have hlength := Executor.length_runContextHooks x.service x.extensions context
  simp only [List.length_nil, List.nil_append, Nat.zero_add] at hhooks
  rw [advanceBy_add, hhooks, Executor.check]
  generalize Executor.runContextHooks x.service x.extensions context = last at *
  cases herror : last.1.error with
  | some e => simp [checked, herror]
  | none => simp [checked, herror, advanceBy, advance, hlength]

theorem advanceBy_choose (x : Executor) (params : Params) (text : String)
    (context : OperationContext) (d : Executable) (key? : Option String) :
    (keeping params text context d key?).advanceBy x (1 + (x.extensions.length + 1)) =
      (answered ({ x with documents := keep x.documents d key? }.choose params context d).1,
        ({ x with documents := keep x.documents d key? }.choose params context d).2) := by
  rw [advanceBy_add, advanceBy_one, Executor.choose]
  dsimp only [advance]
  cases Executor.selectOperation x.service.schema params d context with
  | error refusal => exact advanceBy_answered _ _
  | ok context => exact advanceBy_check { x with documents := keep x.documents d key? } context

theorem advanceBy_look (x : Executor) (params : Params) (text : String)
    (context : OperationContext) :
    (seeking params text context).advanceBy x (2 + (x.extensions.length + 1)) =
      (answered (x.look params context text).1, (x.look params context text).2) := by
  rw [show 2 + (x.extensions.length + 1) = 1 + (1 + (x.extensions.length + 1)) by omega,
    advanceBy_add, advanceBy_one, Executor.look, Executor.findDocument]
  dsimp only [advance]
  rcases x.documents.get (Executor.documentKey context.stats text) with ⟨_ | d, documents⟩
  · simp only [sought]
    cases Executor.readDocument x.service.schema text with
    | error errors => exact advanceBy_answered _ _
    | ok d => exact advanceBy_choose { x with documents } params text context d (some _)
  · exact advanceBy_choose { x with documents } params text context d none

/-- Steps without a break are the preparation of an operation. -/
theorem advanceBy_start (x : Executor) (asked : Params) :
    (start asked).advanceBy x (stepsFor x.extensions.length) =
      (answered (x.answer asked).1, (x.answer asked).2) := by
  have hfirst := @advanceBy_hooking asked x.extensions x [] asked {} rfl
  have hlength := Executor.length_runParamsHooks x.extensions asked {}
  simp only [List.length_nil, List.nil_append, Nat.zero_add] at hfirst
  rw [stepsFor, start, advanceBy_add, hfirst]
  rcases hhooks : Executor.runParamsHooks x.extensions asked {} with ⟨outcome, extensions⟩
  rw [hhooks] at hlength
  cases herror : outcome.error with
  | some e =>
      rw [Executor.answer_of_failed_hook hhooks herror]
      simp [hooked, herror]
  | none =>
      -- one step finds no hook left, the others are those after the text
      rw [show 3 + (x.extensions.length + 1) = 1 + (2 + (x.extensions.length + 1)) by omega,
        advanceBy_add]
      have hready : (hooking asked x.extensions.length outcome.params outcome.stats).advance
          { x with extensions } = (ready asked outcome.params outcome.stats, { x with extensions }) :=
        advance_hooking_none (List.getElem?_eq_none (Nat.le_of_eq hlength))
      simp only [hooked, herror, advanceBy_one, hready, ready]
      cases hquery : outcome.params.query with
      | none =>
          rw [Executor.answer_of_missing hhooks herror hquery]
          exact advanceBy_answered _ _
      | some text =>
          rw [Executor.answer_of_text hhooks herror hquery]
          have hlook := advanceBy_look { x with extensions } outcome.params text
            (contextOf asked outcome.params outcome.stats)
          rw [hlength] at hlook
          exact hlook

/-! ### Steps that are left -/

/-- The extensions stay in place; what they remember may change. -/
theorem length_extensions_advance (x : Executor) (s : Stage) :
    (s.advance x).2.extensions.length = x.extensions.length := by
  unfold advance
  split
  · split
    · exact List.length_set
    · rfl
  · rfl
  · rfl
  · split
    · exact List.length_set
    · rfl
  · rfl

theorem length_extensions_advanceBy (x : Executor) (s : Stage) (n : Nat) :
    (s.advanceBy x n).2.extensions.length = x.extensions.length := by
  induction n generalizing x s with
  | zero => rfl
  | succ n ih => rw [advanceBy, ih, length_extensions_advance]

/-- The steps that are left at most, for some number of extensions. -/
def left (extensions : Nat) : Stage → Nat
  | hooking _ i _ _  => (extensions - i) + (3 + (extensions + 1))
  | seeking ..       => 2 + (extensions + 1)
  | keeping ..       => 1 + (extensions + 1)
  | checking i _     => (extensions - i) + 1
  | answered _       => 0

theorem left_advance (x : Executor) (s : Stage) :
    (s.advance x).1.left x.extensions.length ≤ s.left x.extensions.length - 1 := by
  cases s with
  | hooking asked i params stats =>
      cases he : x.extensions[i]? with
      | some e =>
          have hi : i < x.extensions.length := (List.getElem?_eq_some_iff.mp he).1
          rw [advance_hooking he, hooked]
          split <;> simp only [left] <;> omega
      | none =>
          rw [advance_hooking_none he, ready]
          split <;> simp only [left] <;> omega
  | seeking params text context =>
      dsimp only [advance, sought]
      split
      · simp only [left]; omega
      · split <;> simp only [left] <;> omega
  | keeping params text context d key? =>
      dsimp only [advance, selected]
      split <;> simp only [left] <;> omega
  | checking i context =>
      cases he : x.extensions[i]? with
      | some e =>
          have hi : i < x.extensions.length := (List.getElem?_eq_some_iff.mp he).1
          rw [advance_checking he, checked]
          split <;> simp only [left] <;> omega
      | none =>
          rw [advance_checking_none he]
          simp only [left]
          omega
  | answered answer => exact Nat.zero_le _

/-- The answer, once it is there. -/
def answer? : Stage → Option Answer
  | answered answer => some answer
  | _               => none

theorem answer?_of_left {s : Stage} {n : Nat} (h : s.left n = 0) : ∃ a, s.answer? = some a := by
  cases s with
  | answered a => exact ⟨a, rfl⟩
  | _ => simp only [left] at h; omega

end Stage

end GraphServe
