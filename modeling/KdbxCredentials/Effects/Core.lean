import Mathlib.Data.List.Basic

/-!
# Actions that return or throw

An action over a state returns a value or throws an error, and keeps the state
that it has reached either way.  `exec` shows both, and each construct of the
language has one equation for it: sequencing stops at a throw, a handler goes on
from the state of the throw, and a cleanup runs after a return and after a throw
and replaces the result only by a throw of its own.
-/

namespace KdbxCredentials.Effects

universe u

variable {σ ε ε' α β : Type u}

/-! ## Results -/

/-- A sequence of results succeeds when both parts do. -/
theorem bind_eq_ok_iff {x : Except ε α} {f : α → Except ε β} {b : β} :
    x >>= f = .ok b ↔ ∃ a, x = .ok a ∧ f a = .ok b := by
  cases x with
  | ok a =>
      constructor
      · exact fun result => ⟨a, rfl, result⟩
      · rintro ⟨a', same, result⟩
        cases same
        exact result
  | error e =>
      constructor
      · intro result
        cases result
      · rintro ⟨_, failed, _⟩
        cases failed

/-- Changing the errors of a result leaves success alone. -/
theorem mapError_eq_ok_iff {x : Except ε α} {f : ε → ε'} {a : α} :
    x.mapError f = .ok a ↔ x = .ok a := by
  cases x <;> simp [Except.mapError]

/-- An action over a state that returns or throws. -/
abbrev Action (σ ε : Type u) : Type u → Type u :=
  ExceptT ε (StateM σ)

/-- The result of an action and the state that it leaves behind. -/
def exec (x : Action σ ε α) (s : σ) : Except ε α × σ :=
  x s

/-- Throw the images of the errors. -/
def mapError (f : ε → ε') (x : Action σ ε α) : Action σ ε' α :=
  fun s => ((exec x s).1.mapError f, (exec x s).2)

@[simp]
theorem exec_ofExcept (result : Except ε α) (s : σ) :
    exec (ofExcept result : Action σ ε α) s = (result, s) := by
  cases result <;> rfl

@[simp]
theorem exec_get (s : σ) : exec (get : Action σ ε σ) s = (.ok s, s) :=
  rfl

@[simp]
theorem exec_mapError (f : ε → ε') (x : Action σ ε α) (s : σ) :
    exec (mapError f x) s = ((exec x s).1.mapError f, (exec x s).2) :=
  rfl

theorem exec_bind (x : Action σ ε α) (f : α → Action σ ε β) (s : σ) :
    exec (x >>= f) s =
      match exec x s with
      | (.ok a, s') => exec (f a) s'
      | (.error e, s') => (.error e, s') := by
  simp only [exec, bind, ExceptT.bind, ExceptT.mk, StateT.bind]
  rcases x s with ⟨result, s'⟩
  cases result <;> rfl

/-- A sequence goes on after a return. -/
theorem exec_bind_of_ok {x : Action σ ε α} {f : α → Action σ ε β} {s s' : σ} {a : α}
    (ran : exec x s = (.ok a, s')) : exec (x >>= f) s = exec (f a) s' := by
  rw [exec_bind, ran]

/-- A sequence stops at a throw. -/
theorem exec_bind_of_error {x : Action σ ε α} {f : α → Action σ ε β} {s s' : σ} {e : ε}
    (ran : exec x s = (.error e, s')) : exec (x >>= f) s = (.error e, s') := by
  rw [exec_bind, ran]

theorem exec_map (f : α → β) (x : Action σ ε α) (s : σ) :
    exec (f <$> x) s = ((exec x s).1.map f, (exec x s).2) := by
  simp only [exec, Functor.map, ExceptT.map, ExceptT.mk, StateT.bind, bind]
  rcases x s with ⟨result, s'⟩
  cases result <;> rfl

theorem exec_tryCatch (x : Action σ ε α) (handler : ε → Action σ ε α) (s : σ) :
    exec (tryCatch x handler) s =
      match exec x s with
      | (.ok a, s') => (.ok a, s')
      | (.error e, s') => exec (handler e) s' := by
  simp only [exec, tryCatch, tryCatchThe, MonadExceptOf.tryCatch, ExceptT.tryCatch, ExceptT.mk,
    StateT.bind, bind]
  rcases x s with ⟨result, s'⟩
  cases result <;> rfl

theorem exec_tryFinally (x : Action σ ε α) (cleanup : Action σ ε β) (s : σ) :
    exec (tryFinally x cleanup) s =
      match exec cleanup (exec x s).2 with
      | (.ok _, s') => ((exec x s).1, s')
      | (.error e, s') => (.error e, s') := by
  rw [tryFinally, exec_map]
  simp only [exec, tryFinally', ExceptT.mk, StateT.bind, bind]
  rcases x s with ⟨result, s'⟩
  cases result with
  | ok a =>
      simp only [pure]
      rcases cleanup s' with ⟨result', s''⟩
      cases result' <;> rfl
  | error e =>
      simp only [pure]
      rcases cleanup s' with ⟨result', s''⟩
      cases result' <;> rfl

end KdbxCredentials.Effects
