import KdbxCredentials.Text.Utf8
import Mathlib.Tactic.SplitIfs

/-!
# ASCII case mappings of strings

The mappings change `A`-`Z` and `a`-`z` and nothing else, so they neither
create nor remove any other character, and two strings agree after one of them
exactly when they agree after the other.
-/

namespace KdbxCredentials.Text

/-- Map `A`-`Z` to `a`-`z`. -/
def toAsciiLowercase (s : Str) : Str :=
  s.map Char.toLower

/-- Map `a`-`z` to `A`-`Z`. -/
def toAsciiUppercase (s : Str) : Str :=
  s.map Char.toUpper

theorem toNat_toLower (c : Char) :
    c.toLower.toNat = if 65 ≤ c.toNat ∧ c.toNat ≤ 90 then c.toNat + 32 else c.toNat := by
  delta Char.toLower
  split_ifs with upper range range <;>
    simp only [UInt32.le_iff_toNat_le, ge_iff_le, Char.toNat_val] at upper
  · have offset : ('a'.val - 'A'.val).toNat = 32 := by decide
    rw [Char.toNat_mk, UInt32.toNat_add, Char.toNat_val, offset]
    omega
  · exact absurd upper range
  · exact absurd range upper
  · rfl

theorem toNat_toUpper (c : Char) :
    c.toUpper.toNat = if 97 ≤ c.toNat ∧ c.toNat ≤ 122 then c.toNat - 32 else c.toNat := by
  delta Char.toUpper
  split_ifs with lower range range <;>
    simp only [UInt32.le_iff_toNat_le, Char.toNat_val] at lower
  · have offset : ('A'.val - 'a'.val).toNat = 2 ^ 32 - 32 := by decide
    rw [Char.toNat_mk, UInt32.toNat_add, Char.toNat_val, offset]
    omega
  · exact absurd lower range
  · exact absurd range lower
  · rfl

/-- A character that is not a letter is hit only by itself. -/
theorem toLower_eq_iff {a : Char} (notLower : ¬(97 ≤ a.toNat ∧ a.toNat ≤ 122))
    (notUpper : ¬(65 ≤ a.toNat ∧ a.toNat ≤ 90)) (c : Char) : c.toLower = a ↔ c = a := by
  rw [← Char.toNat_inj, ← Char.toNat_inj, toNat_toLower]
  split_ifs <;> omega

/-- A character that is hit only by itself stays in a list of such characters. -/
theorem toLower_mem_iff {l : Str} (c : Char) (caseless : ∀ a ∈ l, c.toLower = a ↔ c = a) :
    c.toLower ∈ l ↔ c ∈ l := by
  induction l with
  | nil => simp
  | cons a rest ih =>
      rw [List.mem_cons, List.mem_cons, caseless a List.mem_cons_self,
        ih fun b member => caseless b (List.mem_cons_of_mem a member)]

theorem toUpper_eq_iff {a : Char} (notLower : ¬(97 ≤ a.toNat ∧ a.toNat ≤ 122))
    (notUpper : ¬(65 ≤ a.toNat ∧ a.toNat ≤ 90)) (c : Char) : c.toUpper = a ↔ c = a := by
  rw [← Char.toNat_inj, ← Char.toNat_inj, toNat_toUpper]
  split_ifs <;> omega

/-- A character that is not a letter has no case. -/
theorem toLower_and_toUpper_eq_self {c : Char} (notLower : ¬(97 ≤ c.toNat ∧ c.toNat ≤ 122))
    (notUpper : ¬(65 ≤ c.toNat ∧ c.toNat ≤ 90)) : c.toLower = c ∧ c.toUpper = c :=
  ⟨(toLower_eq_iff notLower notUpper c).mpr rfl, (toUpper_eq_iff notLower notUpper c).mpr rfl⟩

theorem toLower_toLower (c : Char) : c.toLower.toLower = c.toLower := by
  rw [← Char.toNat_inj, toNat_toLower, toNat_toLower]
  split_ifs <;> omega

theorem toUpper_toLower (c : Char) : c.toLower.toUpper = c.toUpper := by
  rw [← Char.toNat_inj, toNat_toUpper, toNat_toUpper, toNat_toLower]
  split_ifs <;> omega

@[simp]
theorem toAsciiLowercase_idem (s : Str) :
    toAsciiLowercase (toAsciiLowercase s) = toAsciiLowercase s := by
  rw [toAsciiLowercase, toAsciiLowercase, List.map_map]
  exact List.map_congr_left fun c _ => toLower_toLower c

theorem toAsciiLowercase_toAsciiUppercase (s : Str) :
    toAsciiLowercase (toAsciiUppercase s) = toAsciiLowercase s := by
  rw [toAsciiLowercase, toAsciiLowercase, toAsciiUppercase, List.map_map]
  apply List.map_congr_left
  intro c _
  change c.toUpper.toLower = c.toLower
  rw [← Char.toNat_inj, toNat_toLower, toNat_toLower, toNat_toUpper]
  split_ifs <;> omega

theorem toAsciiUppercase_toAsciiLowercase (s : Str) :
    toAsciiUppercase (toAsciiLowercase s) = toAsciiUppercase s := by
  rw [toAsciiUppercase, toAsciiUppercase, toAsciiLowercase, List.map_map]
  exact List.map_congr_left fun c _ => toUpper_toLower c

/-- Equality ignoring ASCII case may be tested in either case. -/
theorem toAsciiUppercase_eq_iff (s t : Str) :
    toAsciiUppercase s = toAsciiUppercase t ↔ toAsciiLowercase s = toAsciiLowercase t := by
  constructor
  · intro same
    rw [← toAsciiLowercase_toAsciiUppercase s, same, toAsciiLowercase_toAsciiUppercase]
  · intro same
    rw [← toAsciiUppercase_toAsciiLowercase s, same, toAsciiUppercase_toAsciiLowercase]

end KdbxCredentials.Text
