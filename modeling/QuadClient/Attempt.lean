/-!
# Attempts

An attempt works on a state and may fail. What it did to the state before it failed stays
done: the state after a failure is part of the result.
-/

namespace QuadClient

/-- A step on a state of type `σ` that gives a value of type `α` or fails with an `ε`. -/
abbrev Attempt (ε σ α : Type) := ExceptT ε (StateM σ) α

namespace Attempt

variable {ε ε' σ τ α : Type}

/-- Runs an attempt: its outcome, and the state it left. -/
def on (a : Attempt ε σ α) (s : σ) : Except ε α × σ :=
  StateT.run (ExceptT.run a) s

/-- The attempt with this effect. -/
def of (f : σ → Except ε α × σ) : Attempt ε σ α :=
  ExceptT.mk f

/-- The same attempt, its failure seen as a failure of another kind. -/
def mapError (f : ε → ε') (a : Attempt ε σ α) : Attempt ε' σ α :=
  of fun s =>
    let (r, s) := a.on s
    (r.mapError f, s)

/-- An attempt on a part of a state. -/
def zoom (get : σ → τ) (put : τ → σ → σ) (a : Attempt ε τ α) : Attempt ε σ α :=
  of fun s =>
    let (r, t) := a.on (get s)
    (r, put t s)

/-- The outcome of an attempt as a value, so that a failure does not end the work. -/
def outcome (a : Attempt ε σ α) : Attempt ε' σ (Except ε α) :=
  of fun s =>
    let (r, s) := a.on s
    (.ok r, s)

/-- Ends with an outcome that is already known. -/
def done (r : Except ε α) : Attempt ε σ α :=
  of fun s => (r, s)

@[simp] theorem on_of (f : σ → Except ε α × σ) (s : σ) : (of f).on s = f s := rfl

@[simp] theorem on_pure (a : α) (s : σ) : (pure a : Attempt ε σ α).on s = (.ok a, s) := rfl

@[simp] theorem on_throw (e : ε) (s : σ) : (throw e : Attempt ε σ α).on s = (.error e, s) := rfl

theorem on_bind {β : Type} (a : Attempt ε σ α) (f : α → Attempt ε σ β) (s : σ) :
    (a >>= f).on s =
      match a.on s with
      | (.ok x, t) => (f x).on t
      | (.error e, t) => (.error e, t) := by
  -- Both monads are run by hand: the failure goes past `f`, the state does not.
  rcases h : a.on s with ⟨r | r, t⟩ <;> simp only [on] at h ⊢ <;>
    rw [ExceptT.run_bind, StateT.run_bind, h] <;> rfl

@[simp] theorem on_outcome (a : Attempt ε σ α) (s : σ) :
    (outcome a : Attempt ε' σ _).on s = (.ok (a.on s).1, (a.on s).2) := rfl

@[simp] theorem on_done (r : Except ε α) (s : σ) : (done r : Attempt ε σ α).on s = (r, s) := rfl

@[simp] theorem on_mapError (f : ε → ε') (a : Attempt ε σ α) (s : σ) :
    (mapError f a).on s = ((a.on s).1.mapError f, (a.on s).2) := rfl

@[simp] theorem on_zoom (get : σ → τ) (put : τ → σ → σ) (a : Attempt ε τ α) (s : σ) :
    (zoom get put a).on s = ((a.on (get s)).1, put (a.on (get s)).2 s) := rfl

end Attempt

end QuadClient
