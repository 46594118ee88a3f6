/-!
# Chains of middleware

A middleware stands around a stage of the work: it answers by itself, or it calls on, once, with a
context of its choosing, and turns the answer that comes back into its own.  A chain is a list of
them in the order of registration, the first outermost.

* `Chain.run` runs a chain around an endpoint.
* `Chain.run_append` says that a chain of two halves is the first around the second.
-/

namespace GraphServe

/-- What a middleware does with a context. -/
inductive Middleware.Step (m : Type → Type) (Context Answer : Type) where
  /-- Answer; nothing further in runs. -/
  | answer (answer : Answer)
  /-- Call on with a context, and go on with the answer. -/
  | callOn (context : Context) (after : Answer → m Answer)

/-- A middleware between a context and an answer, with effects of `m`. -/
abbrev Middleware (m : Type → Type) (Context Answer : Type) :=
  Context → m (Middleware.Step m Context Answer)

/-- Middleware in the order of registration. -/
abbrev Chain (m : Type → Type) (Context Answer : Type) := List (Middleware m Context Answer)

namespace Chain

variable {m : Type → Type} [Monad m] {Context Answer : Type}

/-- Run a chain around an endpoint. -/
def run : Chain m Context Answer → (Context → m Answer) → Context → m Answer
  | [],         endpoint, context => endpoint context
  | mw :: rest, endpoint, context => do
      match ← mw context with
      | .answer a     => pure a
      | .callOn c after => run rest endpoint c >>= after

/-- A chain of two halves is the first around the second. -/
theorem run_append (xs ys : Chain m Context Answer) (endpoint : Context → m Answer) :
    run (xs ++ ys) endpoint = run xs (run ys endpoint) := by
  induction xs with
  | nil => rfl
  | cons x xs ih => funext c; simp only [List.cons_append, run, ih]

end Chain

end GraphServe
