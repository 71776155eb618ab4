import KdbxCredentials.Effects.Triple
import Mathlib.Data.List.Nodup

/-!
# Heaps of cells

A heap grows by allocation, and a reference is the position of a cell.  Code owns
the cells that it still has to release; all other cells are released.  A triple
that keeps the cells owned by its caller says that an action releases whatever it
allocates, or hands it over with its result.
-/

namespace KdbxCredentials.Effects

variable {γ ε β : Type}

/-- The cells, in the order of their allocation. -/
abbrev Heap (γ : Type) : Type :=
  List γ

def alloc (cell : γ) : Action (Heap γ) ε Nat := do
  let heap ← get
  set (heap ++ [cell])
  return heap.length

def load (ref : Nat) : Action (Heap γ) ε (Option γ) := do
  let heap ← get
  return heap[ref]?

/-- What is seen of a cell, or a default without one. -/
def view (see : γ → β) (default : β) (ref : Nat) : Action (Heap γ) ε β := do
  let cell ← load ref
  return (cell.map see).getD default

def update (ref : Nat) (f : γ → γ) : Action (Heap γ) ε PUnit :=
  modify fun heap => heap.modify ref f

@[simp]
theorem exec_load (ref : Nat) (heap : Heap γ) :
    exec (load ref : Action (Heap γ) ε (Option γ)) heap = (.ok heap[ref]?, heap) :=
  rfl

/-- The owned cells are there, each under a reference of its own, and all other
cells are released. -/
structure Owns (released : γ → Prop) (owned : List (Nat × γ)) (heap : Heap γ) : Prop where
  present : ∀ ref cell, (ref, cell) ∈ owned → heap[ref]? = some cell
  distinct : (owned.map Prod.fst).Nodup
  rest : ∀ ref cell, heap[ref]? = some cell → ref ∉ owned.map Prod.fst → released cell

namespace Owns

variable {released : γ → Prop} {owned : List (Nat × γ)} {heap : Heap γ} {ref : Nat} {cell : γ}

/-- Nothing is owned of a heap whose cells are all released. -/
theorem nil_iff : Owns released [] heap ↔ ∀ cell ∈ heap, released cell := by
  constructor
  · intro owns cell member
    obtain ⟨ref, found⟩ := List.mem_iff_getElem?.mp member
    exact owns.rest ref cell found List.not_mem_nil
  · intro all
    constructor
    · intro ref cell member
      cases member
    · exact List.nodup_nil
    · exact fun ref cell found _ => all cell (List.mem_of_getElem? found)

theorem perm {owned' : List (Nat × γ)} (owns : Owns released owned heap)
    (rearranged : owned.Perm owned') : Owns released owned' heap := by
  constructor
  · exact fun ref cell member => owns.present ref cell (rearranged.mem_iff.mpr member)
  · exact (rearranged.map Prod.fst).nodup_iff.mp owns.distinct
  · intro ref cell found other
    apply owns.rest ref cell found
    rwa [(rearranged.map Prod.fst).mem_iff]

theorem lt_length (owns : Owns released owned heap) (member : ref ∈ owned.map Prod.fst) :
    ref < heap.length := by
  obtain ⟨⟨ref', cell⟩, owner, rfl⟩ := List.mem_map.mp member
  exact (List.getElem?_eq_some_iff.mp (owns.present ref' cell owner)).1

/-- A new cell is owned by the code that allocates it. -/
theorem alloc (owns : Owns released owned heap) (cell : γ) :
    Owns released ((heap.length, cell) :: owned) (heap ++ [cell]) := by
  have fresh : heap.length ∉ owned.map Prod.fst := fun member => by
    have := owns.lt_length member
    omega
  constructor
  · intro ref cell' member
    rcases List.mem_cons.mp member with new | old
    · cases new
      simp
    · have found := owns.present ref cell' old
      rwa [List.getElem?_append_left (List.getElem?_eq_some_iff.mp found).1]
  · exact List.nodup_cons.mpr ⟨fresh, owns.distinct⟩
  · intro ref cell' found other
    rw [List.map_cons, List.mem_cons, not_or] at other
    by_cases inside : ref < heap.length
    · rw [List.getElem?_append_left inside] at found
      exact owns.rest ref cell' found other.2
    · have bound := (List.getElem?_eq_some_iff.mp found).1
      rw [List.length_append] at bound
      change ref < heap.length + 1 at bound
      exact absurd (by omega) other.1

/-- An update changes the updated cell only. -/
theorem update (owns : Owns released ((ref, cell) :: owned) heap) (f : γ → γ) :
    Owns released ((ref, f cell) :: owned) (heap.modify ref f) := by
  have apart : ref ∉ owned.map Prod.fst := (List.nodup_cons.mp owns.distinct).1
  constructor
  · intro ref' cell' member
    rcases List.mem_cons.mp member with here | there
    · cases here
      rw [List.getElem?_modify_eq, owns.present ref cell List.mem_cons_self]
      rfl
    · have other : ref ≠ ref' := by
        rintro rfl
        exact apart (List.mem_map_of_mem there)
      rw [List.getElem?_modify_ne _ _ other]
      exact owns.present ref' cell' (List.mem_cons_of_mem _ there)
  · exact owns.distinct
  · intro ref' cell' found other
    have ne : ref ≠ ref' := by
      rintro rfl
      exact other List.mem_cons_self
    rw [List.getElem?_modify_ne _ _ ne] at found
    exact owns.rest ref' cell' found other

/-- A released cell need not be owned any more. -/
theorem release (owns : Owns released ((ref, cell) :: owned) heap) (done : released cell) :
    Owns released owned heap := by
  constructor
  · exact fun ref' cell' member => owns.present ref' cell' (List.mem_cons_of_mem _ member)
  · exact (List.nodup_cons.mp owns.distinct).2
  · intro ref' cell' found other
    by_cases here : ref' = ref
    · have cell_eq := owns.present ref cell List.mem_cons_self
      rw [← here, found] at cell_eq
      cases cell_eq
      exact done
    · apply owns.rest ref' cell' found
      rw [List.map_cons, List.mem_cons, not_or]
      exact ⟨here, other⟩

end Owns

/-! ## The rules -/

namespace Ensures

variable {released : γ → Prop} {owned : List (Nat × γ)} {ref : Nat} {cell : γ}
  {R : ε → Heap γ → Prop}

protected theorem alloc (cell : γ) :
    Ensures (Owns released owned) (alloc cell : Action (Heap γ) ε Nat)
      (fun ref => Owns released ((ref, cell) :: owned)) R :=
  fun _ owns => owns.alloc cell

protected theorem load (member : (ref, cell) ∈ owned) :
    Ensures (Owns released owned) (load ref : Action (Heap γ) ε (Option γ))
      (fun found heap => found = some cell ∧ Owns released owned heap) R :=
  fun _ owns => ⟨owns.present ref cell member, owns⟩

protected theorem view (see : γ → β) (default : β) (member : (ref, cell) ∈ owned) :
    Ensures (Owns released owned) (view see default ref : Action (Heap γ) ε β)
      (fun seen heap => seen = see cell ∧ Owns released owned heap) R := by
  apply (Ensures.load member).bind
  intro found
  apply Ensures.fact
  rintro rfl
  exact fun _ owns => ⟨rfl, owns⟩

protected theorem update (f : γ → γ) :
    Ensures (Owns released ((ref, cell) :: owned)) (update ref f : Action (Heap γ) ε PUnit)
      (fun _ => Owns released ((ref, f cell) :: owned)) R :=
  fun _ owns => owns.update f

/-- An update that releases a cell gives it up. -/
theorem release {f : γ → γ} (done : released (f cell)) :
    Ensures (Owns released ((ref, cell) :: owned)) (update ref f : Action (Heap γ) ε PUnit)
      (fun _ => Owns released owned) R :=
  fun _ owns => (owns.update f).release done

/-- The same below a cell that is kept. -/
theorem release_below {kept : Nat × γ} {f : γ → γ} (done : released (f cell)) :
    Ensures (Owns released (kept :: (ref, cell) :: owned))
      (update ref f : Action (Heap γ) ε PUnit) (fun _ => Owns released (kept :: owned)) R := by
  intro heap owns
  have swapped : Owns released ((ref, cell) :: kept :: owned) heap :=
    owns.perm (List.Perm.swap _ _ _)
  exact (swapped.update f).release done

end Ensures

end KdbxCredentials.Effects
