import Mathlib.Data.List.Basic

/-!
# Splitting lists at a separator

The core `List.splitOn` keeps empty pieces, so it is the separator operation of
a path grammar: a list is its pieces joined by the separator, and no piece
contains one.  This file adds what a path grammar needs on top of the core
round trip: pieces of concatenations, and splitting after a character encoding
that never produces the separator from anything else.
-/

namespace KdbxCredentials.Text

universe u v

variable {α : Type u} {β : Type v} [DecidableEq α] [DecidableEq β]

/-- No piece of a split contains the separator. -/
theorem not_mem_of_mem_splitOn {sep : α} {l piece : List α}
    (pieceMem : piece ∈ l.splitOn sep) : sep ∉ piece := by
  induction l generalizing piece with
  | nil =>
      have piece_eq : piece = [] := by simpa using pieceMem
      simp [piece_eq]
  | cons x rest ih =>
      rw [List.splitOn_cons_eq_if_modifyHead] at pieceMem
      by_cases separator : x = sep
      · rw [if_pos (by simp [separator])] at pieceMem
        rcases List.mem_cons.mp pieceMem with rfl | restMem
        · simp
        · exact ih restMem
      · rw [if_neg (by simpa using separator)] at pieceMem
        obtain ⟨head, tail, split⟩ :=
          List.exists_cons_of_ne_nil (List.splitOn_ne_nil sep rest)
        rw [split] at pieceMem ih
        rcases List.mem_cons.mp pieceMem with rfl | tailMem
        · have headFree := ih List.mem_cons_self
          simp [Ne.symm separator, headFree]
        · exact ih (List.mem_cons_of_mem head tailMem)

/-- A list consists of its pieces and separators. -/
theorem mem_iff_of_ne {sep x : α} (other : x ≠ sep) (l : List α) :
    x ∈ l ↔ ∃ piece ∈ l.splitOn sep, x ∈ piece := by
  induction l with
  | nil => simp
  | cons y rest ih =>
      rw [List.splitOn_cons_eq_if_modifyHead, List.mem_cons, ih]
      by_cases separator : y = sep
      · subst y
        simp [other]
      · rw [if_neg (by simpa using separator)]
        obtain ⟨head, tail, split⟩ :=
          List.exists_cons_of_ne_nil (List.splitOn_ne_nil sep rest)
        simp [split, or_assoc]

/-- Elements before the first separator all go to the first piece. -/
theorem splitOn_append_of_not_mem {sep : α} {front : List α} (rest : List α)
    (free : sep ∉ front) :
    (front ++ rest).splitOn sep = (rest.splitOn sep).modifyHead (front ++ ·) := by
  induction front with
  | nil => cases split : rest.splitOn sep <;> simp [split]
  | cons x front ih =>
      have xNe : ¬(x == sep) = true := by
        intro equal
        exact free (by simp [eq_of_beq equal])
      have frontFree : sep ∉ front := fun member => free (List.mem_cons_of_mem x member)
      rw [List.cons_append, List.splitOn_cons_eq_if_modifyHead, if_neg xNe, ih frontFree,
        List.modifyHead_modifyHead]
      rfl

/-- Splitting commutes with an encoding that maps the separator to a separator
and never produces that separator from any other symbol. -/
theorem splitOn_flatMap {sep : α} {sep' : β} (encode : α → List β)
    (encode_sep : encode sep = [sep'])
    (encode_other : ∀ x, x ≠ sep → sep' ∉ encode x) (l : List α) :
    (l.flatMap encode).splitOn sep' =
      (l.splitOn sep).map (fun piece => piece.flatMap encode) := by
  induction l with
  | nil => simp
  | cons x rest ih =>
      rw [List.flatMap_cons, List.splitOn_cons_eq_if_modifyHead]
      by_cases separator : x = sep
      · subst x
        rw [if_pos (beq_self_eq_true sep), encode_sep, List.singleton_append,
          List.splitOn_cons_eq_if_modifyHead, if_pos (beq_self_eq_true sep'), ih]
        simp
      · rw [if_neg (by simpa using separator),
          splitOn_append_of_not_mem _ (encode_other x separator), ih]
        cases rest.splitOn sep <;> simp

/-- Splitting commutes with a map that produces separators from separators
only. -/
theorem splitOn_map {sep : α} (f : α → α) (same : ∀ x, f x = sep ↔ x = sep) (l : List α) :
    (l.map f).splitOn sep = (l.splitOn sep).map (List.map f) := by
  have other : ∀ x, x ≠ sep → sep ∉ [f x] := by
    intro x distinct member
    exact distinct ((same x).mp (List.mem_singleton.mp member).symm)
  have image : [f sep] = [sep] := by rw [(same sep).mpr rfl]
  have singly := splitOn_flatMap (fun x => [f x]) image other l
  simpa only [List.map_eq_flatMap] using singly

/-- What follows the last separator goes to the last piece. -/
theorem splitOn_append_right {sep : α} {back : List α} (free : sep ∉ back) (l : List α) :
    ∃ before last, l.splitOn sep = before ++ [last] ∧
      (l ++ back).splitOn sep = before ++ [last ++ back] := by
  induction l with
  | nil => exact ⟨[], [], by simp, by simp [List.splitOn_eq_singleton free]⟩
  | cons x rest ih =>
      obtain ⟨before, last, split, longer⟩ := ih
      rw [List.cons_append, List.splitOn_cons_eq_if_modifyHead,
        List.splitOn_cons_eq_if_modifyHead, split, longer]
      by_cases separator : x = sep
      · exact ⟨[] :: before, last, by simp [separator], by simp [separator]⟩
      · cases before with
        | nil => exact ⟨[], x :: last, by simp [separator], by simp [separator]⟩
        | cons head before =>
            exact ⟨(x :: head) :: before, last, by simp [separator], by simp [separator]⟩

/-- The pieces of a join are the pieces of its parts. -/
theorem splitOn_intercalate_flatMap {sep : α} {parts : List (List α)} (nonempty : parts ≠ []) :
    ([sep].intercalate parts).splitOn sep = parts.flatMap fun part => part.splitOn sep := by
  induction parts with
  | nil => exact absurd rfl nonempty
  | cons part rest ih =>
      cases rest with
      | nil => simp
      | cons second rest =>
          rw [List.intercalate_cons_cons, List.append_assoc, List.singleton_append,
            List.splitOn_append_cons_self, ih (List.cons_ne_nil second rest)]
          rfl

end KdbxCredentials.Text
