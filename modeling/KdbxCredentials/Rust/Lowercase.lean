import KdbxCredentials.Text.Utf8

/-!
# Unicode lowercasing

`str::to_lowercase` over the tables of the Unicode Character Database.  It maps
each character by itself, to one or more characters, except that a capital sigma
at the end of a word becomes a final sigma.
-/

namespace KdbxCredentials.Rust

open KdbxCredentials.Text

/-- The tables that case mappings consult: the full lowercase mapping of a
character without context, the simple uppercase mapping, and the two properties
that tell where a word ends. -/
structure CaseTables where
  lower : Char → Str
  upper : Char → Char
  cased : Char → Bool
  caseIgnorable : Char → Bool

namespace CaseTables

variable (tables : CaseTables)

/-- `case_ignorable_then_cased`. -/
def caseIgnorableThenCased (chars : Str) : Bool :=
  match chars.dropWhile tables.caseIgnorable with
  | c :: _ => tables.cased c
  | [] => false

/-- The place between the characters `before`, nearest first, and `after` is at
the end of a word. -/
def isWordFinal (before after : Str) : Bool :=
  tables.caseIgnorableThenCased before && !tables.caseIgnorableThenCased after

/-- `map_uppercase_sigma`. -/
def mapUppercaseSigma (before after : Str) : Char :=
  if tables.isWordFinal before after then 'ς' else 'σ'

/-- The lowercase form of a character between `before` and `after`. -/
def lowerAt (before : Str) (c : Char) (after : Str) : Str :=
  if c = 'Σ' then [tables.mapUppercaseSigma before after] else tables.lower c

/-- The lowercase form of what follows the characters `before`. -/
def lowercaseFrom : Str → Str → Str
  | _, [] => []
  | before, c :: after => tables.lowerAt before c after ++ lowercaseFrom (c :: before) after

/-- `str::to_lowercase`. -/
def toLowercase (s : Str) : Str :=
  tables.lowercaseFrom [] s

@[simp]
theorem lowercaseFrom_nil (before : Str) : tables.lowercaseFrom before [] = [] :=
  rfl

theorem lowercaseFrom_cons (before : Str) (c : Char) (after : Str) :
    tables.lowercaseFrom before (c :: after) =
      tables.lowerAt before c after ++ tables.lowercaseFrom (c :: before) after :=
  rfl

theorem lowerAt_of_ne {c : Char} (other : c ≠ 'Σ') (before after : Str) :
    tables.lowerAt before c after = tables.lower c :=
  if_neg other

/-- A string of characters that lowercase to themselves is left alone. -/
theorem lowercaseFrom_eq_self {s : Str} (fixed : ∀ c ∈ s, c ≠ 'Σ' ∧ tables.lower c = [c])
    (before : Str) : tables.lowercaseFrom before s = s := by
  induction s generalizing before with
  | nil => rfl
  | cons c rest ih =>
      have head := fixed c List.mem_cons_self
      have tail := ih (fun d member => fixed d (List.mem_cons_of_mem c member)) (c :: before)
      rw [lowercaseFrom_cons, lowerAt_of_ne tables head.1, head.2, tail]
      rfl

end CaseTables

end KdbxCredentials.Rust
