/-!
# Steps that may fail half way

A reader of octets and a conversation with a card have one thing in common: when they fail, what
they have done so far stays done.  A `Step σ ε α` therefore takes a state and gives back an outcome
*and* the state it left behind, in either case.

The monad is written out rather than stacked from transformers, so that running a step at a state is
plain function application and a sequence of steps unfolds to one `match`.
-/

set_option autoImplicit false

namespace SimCard

/-- **A step** on a state of type `σ`: it yields an `α` or fails with an `ε`, and whatever happens
the second component is the state that is left. -/
def Step (σ ε α : Type) : Type := σ → Except ε α × σ

namespace Step

variable {σ ε ε' α β : Type}

instance : Monad (Step σ ε) where
  pure a := fun s => (.ok a, s)
  bind x f := fun s =>
    match x s with
    | (.ok a, s') => f a s'
    | (.error e, s') => (.error e, s')

/-- Fail, leaving the state alone. -/
def fail (e : ε) : Step σ ε α := fun s => (.error e, s)

/-- The state itself. -/
def get : Step σ ε σ := fun s => (.ok s, s)

/-- Change the state. -/
def modify (f : σ → σ) : Step σ ε Unit := fun s => (.ok (), f s)

/-- Turn an outcome that is already known into a step. -/
def ofExcept (x : Except ε α) : Step σ ε α := fun s => (x, s)

/-- The same step with its failures renamed. -/
def mapError (f : ε → ε') (x : Step σ ε α) : Step σ ε' α := fun s =>
  match x s with
  | (.ok a, s') => (.ok a, s')
  | (.error e, s') => (.error (f e), s')

/-- Run a step for what it does, forgetting whether it failed. -/
def ignoring (x : Step σ ε α) : Step σ ε' Unit := fun s => (.ok (), (x s).2)

/-- The outcome of a step as a value: this step does not fail. -/
def outcome (x : Step σ ε α) : Step σ ε' (Except ε α) := fun s =>
  match x s with
  | (r, s') => (.ok r, s')

@[simp] theorem pure_apply (a : α) (s : σ) : (pure a : Step σ ε α) s = (.ok a, s) := rfl

theorem bind_apply (x : Step σ ε α) (f : α → Step σ ε β) (s : σ) :
    (x >>= f) s = match x s with
      | (.ok a, s') => f a s'
      | (.error e, s') => (.error e, s') := rfl

@[simp] theorem fail_apply (e : ε) (s : σ) : (fail e : Step σ ε α) s = (.error e, s) := rfl

end Step

end SimCard
