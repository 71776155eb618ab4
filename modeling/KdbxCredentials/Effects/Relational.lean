import KdbxCredentials.Effects.Heap
import Mathlib.Data.List.Forall2

/-!
# Two runs in step

Two actions are in step when, from states that look alike, they end alike: both
return related values or both throw the same error, in states that look alike
again.  An observer who sees no more than what looks alike cannot tell the two
runs apart.
-/

namespace KdbxCredentials.Effects

universe u

variable {σ ε α β : Type u}

/-- Results that differ at most in how related values differ. -/
inductive SameResult (V : α → α → Prop) : Except ε α → Except ε α → Prop
  | ok {a a' : α} : V a a' → SameResult V (.ok a) (.ok a')
  | error (e : ε) : SameResult V (.error e) (.error e)

namespace SameResult

variable {V : α → α → Prop} {W : β → β → Prop}

protected theorem bind {x y : Except ε α} {f g : α → Except ε β} (first : SameResult V x y)
    (rest : ∀ a a', V a a' → SameResult W (f a) (g a')) :
    SameResult W (x >>= f) (y >>= g) := by
  cases first with
  | ok values => exact rest _ _ values
  | error e => exact .error e

protected theorem mapError {ε' : Type u} {x y : Except ε α} (same : SameResult V x y)
    (f : ε → ε') : SameResult V (x.mapError f) (y.mapError f) := by
  cases same with
  | ok values => exact .ok values
  | error e => exact .error (f e)

end SameResult

/-- From states related by `P`, the actions have the same result up to `V` and leave
states related by `Q`. -/
def InStep (P : σ → σ → Prop) (x y : Action σ ε α) (V : α → α → Prop) (Q : σ → σ → Prop) : Prop :=
  ∀ s s', P s s' →
    SameResult V (exec x s).1 (exec y s').1 ∧ Q (exec x s).2 (exec y s').2

namespace InStep

variable {P Q T : σ → σ → Prop} {V : α → α → Prop} {W : β → β → Prop} {x y : Action σ ε α}

theorem weaken {P' : σ → σ → Prop} (steps : InStep P x y V Q) (pre : ∀ s s', P' s s' → P s s') :
    InStep P' x y V Q :=
  fun s s' related => steps s s' (pre s s' related)

protected theorem pure {a a' : α} (same : V a a') :
    InStep P (pure a : Action σ ε α) (pure a') V P :=
  fun _ _ related => ⟨.ok same, related⟩

protected theorem throw (e : ε) : InStep P (throw e : Action σ ε α) (throw e) V P :=
  fun _ _ related => ⟨.error e, related⟩

protected theorem ofExcept {result result' : Except ε α} (same : SameResult V result result') :
    InStep P (ofExcept result : Action σ ε α) (ofExcept result') V P := by
  intro s s' related
  rw [exec_ofExcept, exec_ofExcept]
  exact ⟨same, related⟩

/-- Actions in step may be followed by actions in step. -/
protected theorem bind {f g : α → Action σ ε β} (first : InStep P x y V Q)
    (rest : ∀ a a', V a a' → InStep Q (f a) (g a') W Q) :
    InStep P (x >>= f) (y >>= g) W Q := by
  intro s s' related
  obtain ⟨same, related'⟩ := first s s' related
  rw [exec_bind, exec_bind]
  rcases ran : exec x s with ⟨result, t⟩
  rcases ran' : exec y s' with ⟨result', t'⟩
  rw [ran, ran'] at same related'
  cases same with
  | ok values => exact rest _ _ values t t' related'
  | error e => exact ⟨.error e, related'⟩

/-- Both runs throw, or both go on. -/
theorem throwIf {c c' : Prop} [Decidable c] [Decidable c'] {e : ε}
    {next next' : PUnit → Action σ ε α}
    (same : c ↔ c') (goesOn : ¬c → InStep P (next ⟨⟩) (next' ⟨⟩) V P) :
    InStep P (if c then throw e >>= next else next ⟨⟩)
      (if c' then throw e >>= next' else next' ⟨⟩) V P := by
  by_cases holds : c
  · rw [if_pos holds, if_pos (same.mp holds)]
    exact fun _ _ related => ⟨.error e, related⟩
  · rw [if_neg holds, if_neg fun holds' => holds (same.mpr holds')]
    exact goesOn holds

protected theorem tryCatch {handler handler' : ε → Action σ ε α} (body : InStep P x y V Q)
    (handled : ∀ e, InStep Q (handler e) (handler' e) V Q) :
    InStep P (tryCatch x handler) (tryCatch y handler') V Q := by
  intro s s' related
  obtain ⟨same, related'⟩ := body s s' related
  rw [exec_tryCatch, exec_tryCatch]
  rcases ran : exec x s with ⟨result, t⟩
  rcases ran' : exec y s' with ⟨result', t'⟩
  rw [ran, ran'] at same related'
  cases same with
  | ok values => exact ⟨.ok values, related'⟩
  | error e => exact handled e t t' related'

protected theorem tryFinally {cleanup cleanup' : Action σ ε β} (body : InStep P x y V Q)
    (cleaned : InStep Q cleanup cleanup' W T) :
    InStep P (tryFinally x cleanup) (tryFinally y cleanup') V T := by
  intro s s' related
  obtain ⟨same, related'⟩ := body s s' related
  obtain ⟨same', related''⟩ := cleaned _ _ related'
  rw [exec_tryFinally, exec_tryFinally]
  rcases ran : exec cleanup (exec x s).2 with ⟨result, t⟩
  rcases ran' : exec cleanup' (exec y s').2 with ⟨result', t'⟩
  rw [ran, ran'] at same' related''
  cases same' with
  | ok _ => exact ⟨same, related''⟩
  | error e => exact ⟨.error e, related''⟩

end InStep

/-! ## Heaps cell by cell -/

section Heap

variable {γ ε : Type} {R : γ → γ → Prop} {heap heap' : Heap γ}

/-- Related heaps have related cells, or none, under a reference. -/
theorem getElem?_rel (related : List.Forall₂ R heap heap') (ref : Nat) :
    Option.Rel R heap[ref]? heap'[ref]? := by
  induction related generalizing ref with
  | nil => exact Option.Rel.none
  | cons cells _ ih =>
      cases ref with
      | zero => exact Option.Rel.some cells
      | succ ref => exact ih ref

theorem modify_rel {f : γ → γ} (keeps : ∀ cell cell', R cell cell' → R (f cell) (f cell'))
    (related : List.Forall₂ R heap heap') (ref : Nat) :
    List.Forall₂ R (heap.modify ref f) (heap'.modify ref f) := by
  induction related generalizing ref with
  | nil =>
      rw [List.modify_nil]
      exact List.Forall₂.nil
  | cons cells rest ih =>
      cases ref with
      | zero => exact List.Forall₂.cons (keeps _ _ cells) rest
      | succ ref => exact List.Forall₂.cons cells (ih ref)

theorem InStep.load (ref : Nat) :
    InStep (List.Forall₂ R) (load ref : Action (Heap γ) ε (Option γ)) (load ref) (Option.Rel R)
      (List.Forall₂ R) :=
  fun _ _ related => ⟨.ok (getElem?_rel related ref), related⟩

/-- New cells that are related get the same reference. -/
theorem InStep.alloc {cell cell' : γ} (cells : R cell cell') :
    InStep (List.Forall₂ R) (alloc cell : Action (Heap γ) ε Nat) (alloc cell') Eq
      (List.Forall₂ R) :=
  fun _ _ related =>
    ⟨.ok related.length_eq, List.rel_append related (.cons cells .nil)⟩

theorem InStep.update {f : γ → γ} (keeps : ∀ cell cell', R cell cell' → R (f cell) (f cell'))
    (ref : Nat) :
    InStep (List.Forall₂ R) (update ref f : Action (Heap γ) ε PUnit) (update ref f) Eq
      (List.Forall₂ R) :=
  fun _ _ related => ⟨.ok rfl, modify_rel keeps related ref⟩

end Heap

end KdbxCredentials.Effects
