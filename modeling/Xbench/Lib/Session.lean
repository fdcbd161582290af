/-!
# Computations on a State

A computation that changes a state and returns a value or raises. The state
outlives the exception: a handler goes on from where the raise left it.

A state of one kind is the record of the calls to the outside, with the answers
to them. The answers come one after another, so which answer a call gets is
told by the number of calls before it.

## Main definitions

* `Session`: A computation on a state.
* `Session.raise`: Raising.
* `Session.ofExcept`: A step that leaves the state alone.
* `Session.attempt`: Running a handler on an exception.
* `Session.ask`: A call, with the next answer.

## Theorems

* `Session.bind_of_ok`, `Session.bind_of_error`: Two steps.
* `Session.bind_ok_iff`: Two steps return when each does.
* `Session.attempt_raising_iff`: A handler that always raises.
-/

namespace Xbench

/-- A computation that changes a state and returns a value or raises. -/
def Session (σ χ α : Type) : Type :=
  σ → Except χ α × σ

namespace Session

variable {σ χ α β : Type}

def ret (a : α) : Session σ χ α :=
  fun s => (.ok a, s)

def bind (x : Session σ χ α) (f : α → Session σ χ β) : Session σ χ β :=
  fun s =>
    match x s with
    | (.ok a, s') => f a s'
    | (.error e, s') => (.error e, s')

instance : Monad (Session σ χ) where
  pure := ret
  bind := bind

def raise (e : χ) : Session σ χ α :=
  fun s => (.error e, s)

/-- A step that leaves the state alone. -/
def ofExcept (r : Except χ α) : Session σ χ α :=
  fun s => (r, s)

/-- Running a handler on an exception. -/
def attempt (x : Session σ χ α) (handler : χ → Session σ χ α) : Session σ χ α :=
  fun s =>
    match x s with
    | (.ok a, s') => (.ok a, s')
    | (.error e, s') => handler e s'

/-- A call, with the next answer; it is recorded. -/
def ask {κ ο : Type} (answers : Nat → ο) (k : κ) : Session (List (κ × ο)) χ ο :=
  fun calls => (.ok (answers calls.length), calls ++ [(k, answers calls.length)])

variable (x : Session σ χ α) (s s' : σ)

theorem bind_apply (f : α → Session σ χ β) :
    (x >>= f) s = match x s with
      | (.ok a, s') => f a s'
      | (.error e, s') => (.error e, s') := rfl

theorem attempt_apply (handler : χ → Session σ χ α) :
    attempt x handler s = match x s with
      | (.ok a, s') => (.ok a, s')
      | (.error e, s') => handler e s' := rfl

theorem pure_apply (a : α) : (pure a : Session σ χ α) s = (.ok a, s) := rfl

theorem raise_apply (e : χ) : (raise e : Session σ χ α) s = (.error e, s) := rfl

theorem ofExcept_apply (r : Except χ α) : (ofExcept r : Session σ χ α) s = (r, s) := rfl

theorem if_apply (p : Prop) [Decidable p] (y : Session σ χ α) :
    (if p then x else y : Session σ χ α) s = if p then x s else y s := by
  split <;> rfl

theorem bind_of_ok (f : α → Session σ χ β) (a : α) (h : x s = (.ok a, s')) :
    (x >>= f) s = f a s' := by
  change bind x f s = f a s'
  unfold bind
  rw [h]

theorem bind_of_error (f : α → Session σ χ β) (e : χ) (h : x s = (.error e, s')) :
    (x >>= f) s = (.error e, s') := by
  change bind x f s = (.error e, s')
  unfold bind
  rw [h]

theorem pure_ok_iff (a b : α) :
    (pure a : Session σ χ α) s = (.ok b, s') ↔ b = a ∧ s' = s := by
  change ((.ok a, s) : Except χ α × σ) = (.ok b, s') ↔ _
  rw [Prod.mk.injEq, Except.ok.injEq, eq_comm, eq_comm (a := s)]

theorem ofExcept_ok_iff (r : Except χ α) (b : α) :
    (ofExcept r : Session σ χ α) s = (.ok b, s') ↔ r = .ok b ∧ s' = s := by
  change ((r, s) : Except χ α × σ) = (.ok b, s') ↔ _
  rw [Prod.mk.injEq, eq_comm (a := s)]

/-- Two steps return when each does. -/
theorem bind_ok_iff (f : α → Session σ χ β) (b : β) :
    (x >>= f) s = (.ok b, s') ↔ ∃ a t, x s = (.ok a, t) ∧ f a t = (.ok b, s') := by
  rcases hx : x s with ⟨r, t⟩
  cases r with
  | ok a =>
      rw [bind_of_ok x s t f a hx]
      refine ⟨fun h => ⟨a, t, rfl, h⟩, ?_⟩
      rintro ⟨a', t', hsame, h⟩
      cases hsame
      exact h
  | error e =>
      rw [bind_of_error x s t f e hx]
      refine ⟨fun h => (by cases h), ?_⟩
      rintro ⟨a', t', hsame, h⟩
      cases hsame

/-- A handler that always raises returns nothing. -/
theorem attempt_raising_iff (handler : χ → Session σ χ α)
    (hraises : ∀ e t a s', handler e t ≠ (.ok a, s')) (a : α) :
    attempt x handler s = (.ok a, s') ↔ x s = (.ok a, s') := by
  rw [attempt_apply]
  rcases x s with ⟨r, t⟩
  cases r with
  | ok b => exact Iff.rfl
  | error e =>
      refine ⟨fun h => absurd h (hraises e t a s'), fun h => ?_⟩
      cases h

end Session

end Xbench
