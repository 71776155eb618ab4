import KdbxCredentials.Descent.Core
import Mathlib.Data.List.Forall2

/-!
# Simulating one greedy descent by another

Two structures whose first candidates are related key by key are descended in
step: both descents stop without a candidate, or both end, at related nodes.
Candidates taken from a list by a filter are related when the lists are and the
filters agree on related elements.
-/

namespace KdbxCredentials.Descent

universe u v u' v'

variable {ν : Type u} {σ : Type v} {ν' : Type u'} {σ' : Type v'}

/-- A relation kept by the first candidate of every key is kept by a whole
greedy descent. -/
theorem descend_rel {candidates : ν → σ → List ν} {candidates' : ν' → σ' → List ν'}
    {R : ν → ν' → Prop} {S : σ → σ' → Prop}
    (step : ∀ {node node' key key'}, R node node' → S key key' →
      Option.Rel R (candidates node key).head? (candidates' node' key').head?)
    {node : ν} {node' : ν'} {keys : List σ} {keys' : List σ'}
    (start : R node node') (keysRel : List.Forall₂ S keys keys') :
    Option.Rel R (descend candidates node keys) (descend candidates' node' keys') := by
  induction keysRel generalizing node node' with
  | nil => exact Option.Rel.some start
  | @cons key key' keys keys' keyRel _ ih =>
      rw [descend_cons, descend_cons]
      have first := step start keyRel
      cases head : (candidates node key).head? with
      | none =>
          rw [head] at first
          cases head' : (candidates' node' key').head? with
          | none => exact Option.Rel.none
          | some next' =>
              rw [head'] at first
              cases first
      | some next =>
          rw [head] at first
          cases head' : (candidates' node' key').head? with
          | none =>
              rw [head'] at first
              cases first
          | some next' =>
              rw [head'] at first
              cases first with
              | some nextRel => exact ih nextRel

/-- Related lists have related heads. -/
theorem head?_rel {R : ν → ν' → Prop} {l : List ν} {l' : List ν'}
    (rel : List.Forall₂ R l l') : Option.Rel R l.head? l'.head? := by
  cases rel with
  | nil => exact Option.Rel.none
  | cons headRel _ => exact Option.Rel.some headRel

/-- Filtering a list and filtering its image under a partial map keep related
elements, when the filters agree where the map is defined and the first one
keeps nothing else. -/
theorem filter_filterMap_rel {f : ν → Option ν'} {p : ν → Bool} {q : ν' → Bool} {l : List ν}
    (agree : ∀ x ∈ l, ∀ y, f x = some y → p x = q y)
    (defined : ∀ x ∈ l, f x = none → p x = false) :
    List.Forall₂ (fun x y => x ∈ l ∧ f x = some y) (l.filter p) ((l.filterMap f).filter q) := by
  induction l with
  | nil => exact List.Forall₂.nil
  | cons x rest ih =>
      have restRel := ih (fun y member => agree y (List.mem_cons_of_mem x member))
        (fun y member => defined y (List.mem_cons_of_mem x member))
      have weaken : List.Forall₂ (fun y z => y ∈ x :: rest ∧ f y = some z)
          (rest.filter p) ((rest.filterMap f).filter q) :=
        restRel.imp fun y z related => ⟨List.mem_cons_of_mem x related.1, related.2⟩
      cases image : f x with
      | none =>
          rw [List.filterMap_cons_none image,
            List.filter_cons_of_neg (by simp [defined x List.mem_cons_self image])]
          exact weaken
      | some y =>
          have same := agree x List.mem_cons_self y image
          rw [List.filterMap_cons_some image]
          cases kept : q y with
          | false =>
              rw [List.filter_cons_of_neg (by simp [same, kept]),
                List.filter_cons_of_neg (by simp [kept])]
              exact weaken
          | true =>
              rw [List.filter_cons_of_pos (same.trans kept), List.filter_cons_of_pos kept]
              exact List.Forall₂.cons ⟨List.mem_cons_self, image⟩ weaken

end KdbxCredentials.Descent
