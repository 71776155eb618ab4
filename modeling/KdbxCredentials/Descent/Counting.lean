import Mathlib.Data.List.Nodup
import Mathlib.Logic.ExistsUnique

/-!
# None, one or several

Selecting a single element by a predicate has three outcomes, according to the
number of elements that satisfy it.  The counts are stated without a
cardinality, as existence, unique existence and existence of two distinct
elements.  They are read off a duplicate-free list of the satisfying elements,
and a search over a subset of the candidates gets the same three answers as the
full search exactly when it loses nothing or already has several.
-/

namespace KdbxCredentials.Descent

universe u

variable {ν : Type u}

/-- Two distinct elements satisfy the predicate. -/
def Several (P : ν → Prop) : Prop :=
  ∃ x y, x ≠ y ∧ P x ∧ P y

theorem Several.exists {P : ν → Prop} (several : Several P) : ∃ x, P x := by
  obtain ⟨x, _, _, hx, _⟩ := several
  exact ⟨x, hx⟩

theorem Several.not_existsUnique {P : ν → Prop} (several : Several P) : ¬∃! x, P x := by
  rintro ⟨z, _, unique⟩
  obtain ⟨x, y, distinct, hx, hy⟩ := several
  exact distinct ((unique x hx).trans (unique y hy).symm)

theorem Several.mono {P R : ν → Prop} (sub : ∀ x, P x → R x) (several : Several P) :
    Several R := by
  obtain ⟨x, y, distinct, hx, hy⟩ := several
  exact ⟨x, y, distinct, sub x hx, sub y hy⟩

/-- A partial search answers none, one or several like the full one exactly
when it finds everything or finds several on its own. -/
theorem counts_agree_iff {found all : ν → Prop} (sub : ∀ x, found x → all x) :
    (((∃ x, found x) ↔ ∃ x, all x) ∧ (Several found ↔ Several all) ∧
        ((∃! x, found x) ↔ ∃! x, all x)) ↔
      ((∀ x, all x → found x) ∨ Several found) := by
  constructor
  · rintro ⟨some_iff, several_iff, _⟩
    by_cases several : Several found
    · exact Or.inr several
    · left
      intro x hx
      obtain ⟨y, hy⟩ := some_iff.mpr ⟨x, hx⟩
      by_contra missed
      have distinct : x ≠ y := by
        rintro rfl
        exact missed hy
      exact several (several_iff.mpr ⟨x, y, distinct, hx, sub y hy⟩)
  · rintro (complete | several)
    · have same : found = all := funext fun x => propext ⟨sub x, complete x⟩
      subst same
      exact ⟨Iff.rfl, Iff.rfl, Iff.rfl⟩
    · have severalAll := several.mono sub
      constructor
      · exact ⟨fun _ => severalAll.exists, fun _ => several.exists⟩
      · constructor
        · exact ⟨fun _ => severalAll, fun _ => several⟩
        · exact ⟨fun one => (several.not_existsUnique one).elim,
            fun one => (severalAll.not_existsUnique one).elim⟩

/-! ## Reading the count off a list -/

variable {P : ν → Prop} {l : List ν}

theorem eq_nil_iff_not_exists (listed : ∀ x, x ∈ l ↔ P x) : l = [] ↔ ¬∃ x, P x := by
  rw [List.eq_nil_iff_forall_not_mem]
  simp [listed]

theorem singleton_iff_existsUnique (listed : ∀ x, x ∈ l ↔ P x) (nodup : l.Nodup) :
    (∃ x, l = [x]) ↔ ∃! x, P x := by
  constructor
  · rintro ⟨x, rfl⟩
    have only : ∀ y, P y → y = x := fun y hy => List.mem_singleton.mp ((listed y).mpr hy)
    exact ⟨x, (listed x).mp List.mem_cons_self, only⟩
  · rintro ⟨x, hx, unique⟩
    have only : ∀ y ∈ l, y = x := fun y member => unique y ((listed y).mp member)
    match l, nodup, only, (listed x).mpr hx with
    | [y], _, only, _ => exact ⟨y, rfl⟩
    | y :: z :: rest, nodup, only, _ =>
        have y_eq := only y List.mem_cons_self
        have z_eq := only z (List.mem_cons_of_mem y List.mem_cons_self)
        simp [y_eq, z_eq] at nodup

theorem two_iff_several (listed : ∀ x, x ∈ l ↔ P x) (nodup : l.Nodup) :
    (∃ x y rest, l = x :: y :: rest) ↔ Several P := by
  constructor
  · rintro ⟨x, y, rest, rfl⟩
    have distinct : x ≠ y := by
      rintro rfl
      simp at nodup
    exact ⟨x, y, distinct, (listed x).mp (by simp), (listed y).mp (by simp)⟩
  · rintro ⟨x, y, distinct, hx, hy⟩
    match l, (listed x).mpr hx, (listed y).mpr hy with
    | [z], xMem, yMem =>
        exact (distinct ((List.mem_singleton.mp xMem).trans (List.mem_singleton.mp yMem).symm)).elim
    | z :: w :: rest, _, _ => exact ⟨z, w, rest, rfl⟩

end KdbxCredentials.Descent
