import Mathlib.Data.List.Basic

/-!
# Exhaustive and greedy descent

A node offers, for each key, an ordered list of candidates for the next node.
Exhaustive descent may follow any candidate; greedy descent follows the first
one and never returns to try another.  Greedy descent is functional and reaches
only nodes that exhaustive descent reaches; the converse needs every key on the
way to have a single candidate.
-/

namespace KdbxCredentials.Descent

universe u v

variable {ν : Type u} {σ : Type v} (candidates : ν → σ → List ν)

/-- `target` is reached from a node by following any candidate for each key. -/
inductive Reaches : ν → List σ → ν → Prop
  | here (node : ν) : Reaches node [] node
  | step {node next target : ν} {key : σ} {keys : List σ} :
      next ∈ candidates node key → Reaches next keys target →
      Reaches node (key :: keys) target

/-- `target` is reached by following the first candidate for each key. -/
inductive FirstReaches : ν → List σ → ν → Prop
  | here (node : ν) : FirstReaches node [] node
  | step {node next target : ν} {key : σ} {keys : List σ} :
      (candidates node key).head? = some next → FirstReaches next keys target →
      FirstReaches node (key :: keys) target

/-- Executable greedy descent. -/
def descend : ν → List σ → Option ν
  | node, [] => some node
  | node, key :: keys => (candidates node key).head?.bind fun next => descend next keys

@[simp]
theorem descend_nil (node : ν) : descend candidates node [] = some node :=
  rfl

@[simp]
theorem descend_cons (node : ν) (key : σ) (keys : List σ) :
    descend candidates node (key :: keys) =
      (candidates node key).head?.bind fun next => descend candidates next keys :=
  rfl

/-- The executable descent computes the greedy relation. -/
theorem descend_eq_some_iff (node : ν) (keys : List σ) (target : ν) :
    descend candidates node keys = some target ↔
      FirstReaches candidates node keys target := by
  constructor
  · intro reached
    induction keys generalizing node with
    | nil =>
        have target_eq : node = target := Option.some.inj reached
        subst target
        exact FirstReaches.here node
    | cons key keys ih =>
        rw [descend_cons, Option.bind_eq_some_iff] at reached
        obtain ⟨next, first, rest⟩ := reached
        exact FirstReaches.step first (ih next rest)
  · intro reached
    induction reached with
    | here node => rfl
    | step first _ ih => rw [descend_cons, first, Option.bind_some, ih]

variable {candidates}

theorem FirstReaches.reaches {node target : ν} {keys : List σ}
    (first : FirstReaches candidates node keys target) :
    Reaches candidates node keys target := by
  induction first with
  | here node => exact Reaches.here node
  | step head _ ih => exact Reaches.step (List.mem_of_mem_head? head) ih

/-- Greedy descent has at most one end. -/
theorem FirstReaches.unique {node target target' : ν} {keys : List σ}
    (left : FirstReaches candidates node keys target)
    (right : FirstReaches candidates node keys target') : target = target' := by
  rw [← descend_eq_some_iff] at left right
  exact Option.some.inj (left.symm.trans right)

end KdbxCredentials.Descent
