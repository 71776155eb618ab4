import KdbxCredentials.Effects.Core

/-!
# Pre- and postconditions of actions

A triple has one precondition and two postconditions, one for each way in which
an action can end.  There is one rule for each construct; the rule for cleanups
has the same assertion after both ends of the body, so what a cleanup ensures
holds however the body ends.
-/

namespace KdbxCredentials.Effects

universe u v

variable {σ ε α β : Type u}

/-- From a state with `P`, the action returns with `Q` or throws with `R`. -/
def Ensures (P : σ → Prop) (x : Action σ ε α) (Q : α → σ → Prop) (R : ε → σ → Prop) : Prop :=
  ∀ s, P s →
    match exec x s with
    | (.ok a, s') => Q a s'
    | (.error e, s') => R e s'

namespace Ensures

variable {P P' : σ → Prop} {Q Q' : α → σ → Prop} {R R' : ε → σ → Prop}
variable {x : Action σ ε α}

/-! ## Reading a triple -/

theorem of_ok (triple : Ensures P x Q R) {s s' : σ} {a : α} (pre : P s)
    (ran : exec x s = (.ok a, s')) : Q a s' := by
  have post := triple s pre
  rw [ran] at post
  exact post

theorem of_error (triple : Ensures P x Q R) {s s' : σ} {e : ε} (pre : P s)
    (ran : exec x s = (.error e, s')) : R e s' := by
  have post := triple s pre
  rw [ran] at post
  exact post

/-- A triple is what holds after each way of ending. -/
theorem intro (ok : ∀ s s' a, P s → exec x s = (.ok a, s') → Q a s')
    (error : ∀ s s' e, P s → exec x s = (.error e, s') → R e s') : Ensures P x Q R := by
  intro s pre
  rcases ran : exec x s with ⟨result, s'⟩
  cases result with
  | ok a => exact ok s s' a pre ran
  | error e => exact error s s' e pre ran

theorem weaken (triple : Ensures P x Q R) (pre : ∀ s, P' s → P s)
    (ok : ∀ a s, Q a s → Q' a s) (error : ∀ e s, R e s → R' e s) : Ensures P' x Q' R' := by
  apply intro
  · intro s s' a holds ran
    exact ok a s' (triple.of_ok (pre s holds) ran)
  · intro s s' e holds ran
    exact error e s' (triple.of_error (pre s holds) ran)

/-- A fact in the precondition may be assumed. -/
theorem fact {p : Prop} (triple : p → Ensures P x Q R) : Ensures (fun s => p ∧ P s) x Q R :=
  fun s pre => triple pre.1 s pre.2

/-- A witness of the precondition may be chosen. -/
theorem ofExists {ι : Sort v} {P : ι → σ → Prop} (triple : ∀ i, Ensures (P i) x Q R) :
    Ensures (fun s => ∃ i, P i s) x Q R := by
  rintro s ⟨i, pre⟩
  exact triple i s pre

/-! ## The rules -/

protected theorem ofExcept (result : Except ε α) :
    Ensures P (ofExcept result : Action σ ε α) (fun a s => result = .ok a ∧ P s)
      (fun e s => result = .error e ∧ P s) := by
  intro s pre
  cases result with
  | ok a => exact ⟨rfl, pre⟩
  | error e => exact ⟨rfl, pre⟩

protected theorem bind {f : α → Action σ ε β} {S : β → σ → Prop} (first : Ensures P x Q R)
    (rest : ∀ a, Ensures (Q a) (f a) S R) : Ensures P (x >>= f) S R := by
  intro s pre
  rw [exec_bind]
  rcases ran : exec x s with ⟨result, s'⟩
  cases result with
  | ok a => exact rest a s' (first.of_ok pre ran)
  | error e => exact first.of_error pre ran

/-- A throw under a condition, and what follows without it. -/
theorem throwIf {c : Prop} [Decidable c] {e : ε} {next : PUnit → Action σ ε α}
    (thrown : c → ∀ s, P s → R e s) (goesOn : ¬c → Ensures P (next ⟨⟩) Q R) :
    Ensures P (if c then throw e >>= next else next ⟨⟩) Q R := by
  by_cases holds : c
  · rw [if_pos holds]
    exact thrown holds
  · rw [if_neg holds]
    exact goesOn holds

protected theorem tryCatch {handler : ε → Action σ ε α} {T : ε → σ → Prop}
    (body : Ensures P x Q R) (handled : ∀ e, Ensures (R e) (handler e) Q T) :
    Ensures P (tryCatch x handler) Q T := by
  intro s pre
  rw [exec_tryCatch]
  rcases ran : exec x s with ⟨result, s'⟩
  cases result with
  | ok a => exact body.of_ok pre ran
  | error e => exact handled e s' (body.of_error pre ran)

/-- A cleanup establishes its assertions after either end of the body. -/
protected theorem tryFinally {cleanup : Action σ ε β} {Q' : α → σ → Prop} {R' : ε → σ → Prop}
    (body : Ensures P x Q R)
    (afterReturn : ∀ a, Ensures (Q a) cleanup (fun _ => Q' a) R')
    (afterThrow : ∀ e, Ensures (R e) cleanup (fun _ => R' e) R') :
    Ensures P (tryFinally x cleanup) Q' R' := by
  intro s pre
  rw [exec_tryFinally]
  rcases ran : exec x s with ⟨result, s'⟩
  rcases cleaned : exec cleanup s' with ⟨result', s''⟩
  dsimp only
  cases result with
  | ok a =>
      cases result' with
      | ok _ => exact (afterReturn a).of_ok (body.of_ok pre ran) cleaned
      | error e => exact (afterReturn a).of_error (body.of_ok pre ran) cleaned
  | error e =>
      cases result' with
      | ok _ => exact (afterThrow e).of_ok (body.of_error pre ran) cleaned
      | error e' => exact (afterThrow e).of_error (body.of_error pre ran) cleaned

end Ensures

/-! ## Invariants -/

/-- An assertion that is kept however the action ends. -/
def Keeps (I : σ → Prop) (x : Action σ ε α) : Prop :=
  Ensures I x (fun _ => I) fun _ => I

namespace Keeps

variable {I : σ → Prop} {x : Action σ ε α}

/-- The invariant holds of the state that is left behind. -/
theorem exec (keeps : Keeps I x) {s : σ} (holds : I s) : I (exec x s).2 := by
  rcases ran : Effects.exec x s with ⟨result, s'⟩
  cases result with
  | ok a => exact keeps.of_ok holds ran
  | error e => exact keeps.of_error holds ran

protected theorem pure (a : α) : Keeps I (pure a : Action σ ε α) :=
  fun _ holds => holds

protected theorem bind {f : α → Action σ ε β} (first : Keeps I x) (rest : ∀ a, Keeps I (f a)) :
    Keeps I (x >>= f) :=
  Ensures.bind first rest

protected theorem tryCatch {handler : ε → Action σ ε α} (body : Keeps I x)
    (handled : ∀ e, Keeps I (handler e)) : Keeps I (tryCatch x handler) :=
  Ensures.tryCatch body handled

end Keeps

end KdbxCredentials.Effects
