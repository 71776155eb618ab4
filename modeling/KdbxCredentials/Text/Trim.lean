import Mathlib.Data.List.DropRight
import Mathlib.Data.List.TakeWhile

/-!
# Trimming lists

`trim pad` removes the padding at both ends of a list and leaves the padding
inside it alone.  A list is unpadded when neither end is padding; `trim` makes
every list so, and leaves such a list as it is.
-/

namespace KdbxCredentials.Text

universe u

variable {α : Type u} (pad : α → Bool)

/-- Remove the longest padded prefix and the longest padded suffix. -/
def trim (l : List α) : List α :=
  (l.dropWhile pad).rdropWhile pad

/-- Neither the first nor the last element is padding. -/
structure Unpadded (l : List α) : Prop where
  first : ∀ x, l.head? = some x → pad x = false
  last : ∀ x, l.getLast? = some x → pad x = false

/-- Trimming leaves nothing exactly when the list is all padding. -/
theorem trim_eq_nil_iff (l : List α) : trim pad l = [] ↔ ∀ x ∈ l, pad x = true := by
  rw [trim, List.rdropWhile_eq_nil_iff]
  constructor
  · intro rest x member
    rw [← List.takeWhile_append_dropWhile (p := pad) (l := l)] at member
    rcases List.mem_append.mp member with front | back
    · exact List.mem_takeWhile_imp front
    · exact rest x back
  · intro all x member
    exact all x (List.dropWhile_subset pad member)

theorem mem_of_mem_trim {l : List α} {x : α} (member : x ∈ trim pad l) : x ∈ l :=
  List.dropWhile_subset pad ((List.rdropWhile_prefix pad _).subset member)

private theorem head?_rdropWhile (l : List α) (x : α)
    (head : (l.rdropWhile pad).head? = some x) : l.head? = some x := by
  obtain ⟨suffix, split⟩ := List.rdropWhile_prefix pad l
  rw [← split]
  cases trimmed : l.rdropWhile pad with
  | nil => simp [trimmed] at head
  | cons y rest => simpa [trimmed] using head

/-- Both ends of a trimmed list are free of padding. -/
theorem unpadded_trim (l : List α) : Unpadded pad (trim pad l) where
  first x head := by
    have dropped := head?_rdropWhile pad (l.dropWhile pad) x head
    have notPad := List.head?_dropWhile_not pad l
    simpa [dropped] using notPad
  last x last := by
    have nonempty : trim pad l ≠ [] := by
      intro empty
      simp [empty] at last
    have notPad : ¬pad ((trim pad l).getLast nonempty) = true :=
      List.rdropWhile_last_not pad (l.dropWhile pad) nonempty
    rw [List.getLast?_eq_some_getLast nonempty] at last
    rw [Option.some.inj last] at notPad
    simpa using notPad

/-- A list with unpadded ends is left alone. -/
theorem Unpadded.trim_eq {l : List α} (unpadded : Unpadded pad l) : trim pad l = l := by
  have front : l.dropWhile pad = l := by
    cases l with
    | nil => rfl
    | cons x rest => simp [unpadded.first x rfl]
  rw [trim, front, List.rdropWhile_eq_self_iff]
  intro nonempty
  simp [unpadded.last _ (List.getLast?_eq_some_getLast nonempty)]

/-! ## Padding that is trimmed away -/

theorem trim_append_left {front : List α} (padding : ∀ x ∈ front, pad x = true) (l : List α) :
    trim pad (front ++ l) = trim pad l := by
  rw [trim, List.dropWhile_append_of_pos padding, trim]

private theorem rdropWhile_append_right {back : List α} (padding : ∀ x ∈ back, pad x = true)
    (l : List α) : (l ++ back).rdropWhile pad = l.rdropWhile pad := by
  have reversed : ∀ x ∈ back.reverse, pad x = true :=
    fun x member => padding x (List.mem_reverse.mp member)
  rw [List.rdropWhile, List.reverse_append, List.dropWhile_append_of_pos reversed,
    List.rdropWhile]

theorem trim_append_right {back : List α} (padding : ∀ x ∈ back, pad x = true) (l : List α) :
    trim pad (l ++ back) = trim pad l := by
  rw [trim, List.dropWhile_append]
  by_cases all : (l.dropWhile pad).isEmpty = true
  · have none := List.dropWhile_eq_nil_iff.mpr padding
    rw [if_pos all, none, trim, List.isEmpty_iff.mp all]
  · rw [if_neg all, rdropWhile_append_right pad padding, trim]

/-- A map that keeps padding and non-padding apart commutes with trimming. -/
theorem trim_map {f : α → α} (same : ∀ x, pad (f x) = pad x) (l : List α) :
    trim pad (l.map f) = (trim pad l).map f := by
  have keeps : pad ∘ f = pad := funext same
  rw [trim, List.dropWhile_map, keeps, List.rdropWhile, ← List.map_reverse, List.dropWhile_map,
    keeps, ← List.map_reverse, trim, List.rdropWhile]

/-- Lists whose ends are padding alike are unpadded alike. -/
theorem unpadded_congr {l l' : List α} (first : l.head?.map pad = l'.head?.map pad)
    (last : l.getLast?.map pad = l'.getLast?.map pad) : Unpadded pad l ↔ Unpadded pad l' := by
  have ends : ∀ o : Option α,
      (∀ x, o = some x → pad x = false) ↔ o.map pad ≠ some true := by
    intro o
    cases o <;> simp
  have spelled : ∀ k : List α, Unpadded pad k ↔
      k.head?.map pad ≠ some true ∧ k.getLast?.map pad ≠ some true := by
    intro k
    rw [← ends, ← ends]
    exact ⟨fun unpadded => ⟨unpadded.first, unpadded.last⟩, fun both => ⟨both.1, both.2⟩⟩
  rw [spelled, spelled, first, last]

/-- A map that keeps padding and non-padding apart keeps the ends unpadded. -/
theorem unpadded_map_iff {f : α → α} (same : ∀ x, pad (f x) = pad x) (l : List α) :
    Unpadded pad (l.map f) ↔ Unpadded pad l := by
  have keeps : pad ∘ f = pad := funext same
  apply unpadded_congr
  · rw [List.head?_map, Option.map_map, keeps]
  · rw [List.getLast?_map, Option.map_map, keeps]

end KdbxCredentials.Text
