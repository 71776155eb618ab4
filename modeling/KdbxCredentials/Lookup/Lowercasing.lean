import KdbxCredentials.Lookup.Addressing
import KdbxCredentials.Rust.Lowercase

/-!
# The laws of lowercasing

What the results on paths assume of `str::to_lowercase` follows from facts about
single characters.  The context of a character decides only between the two
lowercase sigmas, which have every fact in common, so each law is an induction
over the string with the characters before it left arbitrary.
-/

namespace KdbxCredentials.Lookup

open KdbxCredentials.Text hiding trim
open KdbxCredentials.Rust

/-- The facts about single characters on which the laws rest. -/
structure LowercaseFacts (tables : CaseTables) : Prop where
  nonempty : ∀ c, tables.lower c ≠ []
  fixed : ∀ c, ∀ d ∈ tables.lower c, d ≠ 'Σ' ∧ tables.lower d = [d]
  smallSigma : tables.lower 'σ' = ['σ']
  finalSigma : tables.lower 'ς' = ['ς']
  slash : ∀ c, '/' ∈ tables.lower c ↔ c = '/'
  space : ∀ c, ∀ d ∈ tables.lower c, isWhitespace d = isWhitespace c
  root : ∀ c, ∀ d ∈ rootName, d ∈ tables.lower c → tables.lower c = [d] ∧ c.toLower = d
  ascii : ∀ c, c.toNat < 128 → tables.lower c = [c.toLower]
  cased : ∀ c, tables.cased c.toLower = tables.cased c
  caseIgnorable : ∀ c, tables.caseIgnorable c.toLower = tables.caseIgnorable c

namespace LowercaseFacts

variable {tables : CaseTables} (facts : LowercaseFacts tables)

/-! ## One character in its context -/

/-- A character other than a capital sigma is looked up; a capital sigma becomes
one of two lowercase letters. -/
theorem lowerAt_cases (tables : CaseTables) (before : Str) (c : Char) (after : Str) :
    (c ≠ 'Σ' ∧ tables.lowerAt before c after = tables.lower c) ∨
      c = 'Σ' ∧
        (tables.lowerAt before c after = ['ς'] ∨ tables.lowerAt before c after = ['σ']) := by
  by_cases isCapital : c = 'Σ'
  · right
    rw [CaseTables.lowerAt, if_pos isCapital, CaseTables.mapUppercaseSigma]
    split_ifs
    · exact ⟨isCapital, Or.inl rfl⟩
    · exact ⟨isCapital, Or.inr rfl⟩
  · exact Or.inl ⟨isCapital, tables.lowerAt_of_ne isCapital before after⟩

include facts

theorem lowerAt_ne_nil (before : Str) (c : Char) (after : Str) :
    tables.lowerAt before c after ≠ [] := by
  rcases lowerAt_cases tables before c after with ⟨_, lower_eq⟩ | ⟨_, lower_eq | lower_eq⟩
  · rw [lower_eq]
    exact facts.nonempty c
  · simp [lower_eq]
  · simp [lower_eq]

/-- What a character becomes is lowercase, and whitespace only if it was. -/
theorem of_mem_lowerAt {before : Str} {c : Char} {after : Str} {d : Char}
    (member : d ∈ tables.lowerAt before c after) :
    (d ≠ 'Σ' ∧ tables.lower d = [d]) ∧ isWhitespace d = isWhitespace c := by
  rcases lowerAt_cases tables before c after with
    ⟨_, lower_eq⟩ | ⟨isCapital, lower_eq | lower_eq⟩
  · rw [lower_eq] at member
    exact ⟨facts.fixed c d member, facts.space c d member⟩
  · rw [lower_eq, List.mem_singleton] at member
    rw [member, isCapital]
    exact ⟨⟨by decide, facts.finalSigma⟩, by decide⟩
  · rw [lower_eq, List.mem_singleton] at member
    rw [member, isCapital]
    exact ⟨⟨by decide, facts.smallSigma⟩, by decide⟩

theorem slash_mem_lowerAt_iff (before : Str) (c : Char) (after : Str) :
    '/' ∈ tables.lowerAt before c after ↔ c = '/' := by
  rcases lowerAt_cases tables before c after with
    ⟨_, lower_eq⟩ | ⟨isCapital, lower_eq | lower_eq⟩
  · rw [lower_eq]
    exact facts.slash c
  · rw [lower_eq, isCapital]
    decide
  · rw [lower_eq, isCapital]
    decide

/-- The letters of the root name come from their own two cases alone. -/
theorem root_of_mem_lowerAt {before : Str} {c : Char} {after : Str} {d : Char}
    (letter : d ∈ rootName) (member : d ∈ tables.lowerAt before c after) :
    tables.lowerAt before c after = [d] ∧ c.toLower = d := by
  rcases lowerAt_cases tables before c after with ⟨_, lower_eq⟩ | ⟨_, lower_eq | lower_eq⟩
  · rw [lower_eq] at member ⊢
    exact facts.root c d letter member
  · rw [lower_eq, List.mem_singleton] at member
    subst member
    exact absurd letter (by decide)
  · rw [lower_eq, List.mem_singleton] at member
    subst member
    exact absurd letter (by decide)

/-! ## Whole strings -/

/-- Every character of a lowercase form is one that a character became. -/
theorem fixed_of_mem_lowercaseFrom {s : Str} {before : Str} {d : Char}
    (member : d ∈ tables.lowercaseFrom before s) : d ≠ 'Σ' ∧ tables.lower d = [d] := by
  induction s generalizing before with
  | nil => contradiction
  | cons c rest ih =>
      rw [tables.lowercaseFrom_cons] at member
      rcases List.mem_append.mp member with head | tail
      · exact (facts.of_mem_lowerAt head).1
      · exact ih tail

theorem lowercaseFrom_eq_nil_iff (before s : Str) :
    tables.lowercaseFrom before s = [] ↔ s = [] := by
  cases s with
  | nil => simp
  | cons c rest => simp [tables.lowercaseFrom_cons, facts.lowerAt_ne_nil]

theorem slash_mem_lowercaseFrom_iff (before s : Str) :
    '/' ∈ tables.lowercaseFrom before s ↔ '/' ∈ s := by
  induction s generalizing before with
  | nil => simp
  | cons c rest ih =>
      rw [tables.lowercaseFrom_cons, List.mem_append, facts.slash_mem_lowerAt_iff, ih,
        List.mem_cons, eq_comm]

/-- The first character of a lowercase form is whitespace if that of the string is. -/
theorem head_lowercaseFrom (before s : Str) :
    (tables.lowercaseFrom before s).head?.map isWhitespace = s.head?.map isWhitespace := by
  cases s with
  | nil => rfl
  | cons c rest =>
      rw [tables.lowercaseFrom_cons]
      obtain ⟨d, ds, lower_eq⟩ :=
        List.exists_cons_of_ne_nil (facts.lowerAt_ne_nil before c rest)
      have member : d ∈ tables.lowerAt before c rest := by simp [lower_eq]
      have same := (facts.of_mem_lowerAt member).2
      simp [lower_eq, same]

/-- The same holds of the last character. -/
theorem getLast_lowercaseFrom (before s : Str) :
    (tables.lowercaseFrom before s).getLast?.map isWhitespace = s.getLast?.map isWhitespace := by
  induction s generalizing before with
  | nil => rfl
  | cons c rest ih =>
      rw [tables.lowercaseFrom_cons]
      cases rest with
      | nil =>
          rw [tables.lowercaseFrom_nil, List.append_nil,
            List.getLast?_eq_some_getLast (facts.lowerAt_ne_nil before c [])]
          have same := (facts.of_mem_lowerAt
            (List.getLast_mem (facts.lowerAt_ne_nil before c []))).2
          simp [same]
      | cons d rest =>
          have nonempty : tables.lowercaseFrom (c :: before) (d :: rest) ≠ [] := by
            rw [ne_eq, facts.lowercaseFrom_eq_nil_iff]
            exact List.cons_ne_nil d rest
          rw [List.getLast?_append_of_ne_nil _ nonempty, ih, List.getLast?_cons_cons]

/-- Only the two cases of the letters of the root name lowercase to them. -/
theorem map_toLower_of_lowercaseFrom {before s : Str}
    (letters : ∀ d ∈ tables.lowercaseFrom before s, d ∈ rootName) :
    s.map Char.toLower = tables.lowercaseFrom before s := by
  induction s generalizing before with
  | nil => rfl
  | cons c rest ih =>
      rw [tables.lowercaseFrom_cons] at letters ⊢
      obtain ⟨d, ds, lower_eq⟩ :=
        List.exists_cons_of_ne_nil (facts.lowerAt_ne_nil before c rest)
      have member : d ∈ tables.lowerAt before c rest := by simp [lower_eq]
      have letter : d ∈ rootName := letters d (List.mem_append_left _ member)
      rcases facts.root_of_mem_lowerAt letter member with ⟨single, lower_d⟩
      rw [single, List.map_cons, lower_d,
        ih fun x tail => letters x (List.mem_append_right _ tail)]
      rfl

/-- ASCII strings are mapped character by character. -/
theorem lowercaseFrom_of_ascii {s : Str} (ascii : ∀ c ∈ s, c.toNat < 128) (before : Str) :
    tables.lowercaseFrom before s = s.map Char.toLower := by
  induction s generalizing before with
  | nil => rfl
  | cons c rest ih =>
      have small := ascii c List.mem_cons_self
      have notCapital : c ≠ 'Σ' := by
        rintro rfl
        exact absurd small (by decide)
      rw [tables.lowercaseFrom_cons, tables.lowerAt_of_ne notCapital, facts.ascii c small,
        ih fun d member => ascii d (List.mem_cons_of_mem c member)]
      rfl

omit facts

theorem mem_rootName_ascii {d : Char} (letter : d ∈ rootName) : d.toNat < 128 := by
  change d ∈ ['r', 'o', 'o', 't'] at letter
  simp only [List.mem_cons, List.not_mem_nil, or_false] at letter
  rcases letter with rfl | rfl | rfl | rfl <;> decide

/-- A character whose ASCII lowercase form is ASCII is ASCII itself. -/
theorem lt_of_toLower_lt {c : Char} (small : c.toLower.toNat < 128) : c.toNat < 128 := by
  rw [toNat_toLower] at small
  split_ifs at small <;> omega

include facts

/-! ## The laws -/

theorem lowercaseLaws : LowercaseLaws tables.toLowercase where
  idempotent s := by
    apply tables.lowercaseFrom_eq_self
    intro c member
    exact facts.fixed_of_mem_lowercaseFrom member
  empty_iff s := facts.lowercaseFrom_eq_nil_iff [] s
  slash_iff s := facts.slash_mem_lowercaseFrom_iff [] s
  unpadded_iff s :=
    unpadded_congr isWhitespace (facts.head_lowercaseFrom [] s) (facts.getLast_lowercaseFrom [] s)
  root_iff s := by
    have fixed : toAsciiLowercase rootName = rootName := by decide
    rw [eqIgnoreAsciiCase, fixed, beq_iff_eq]
    constructor
    · intro lowered
      have letters : ∀ d ∈ tables.lowercaseFrom [] s, d ∈ rootName := by
        change tables.lowercaseFrom [] s = rootName at lowered
        rw [lowered]
        exact fun d member => member
      exact (facts.map_toLower_of_lowercaseFrom letters).trans lowered
    · intro lowered
      have ascii : ∀ c ∈ s, c.toNat < 128 := by
        intro c member
        apply lt_of_toLower_lt
        apply mem_rootName_ascii
        rw [← lowered]
        exact List.mem_map_of_mem member
      exact (facts.lowercaseFrom_of_ascii ascii []).trans lowered

/-! ## ASCII case -/

theorem lower_toLower (c : Char) : tables.lower c.toLower = tables.lower c := by
  by_cases small : c.toNat < 128
  · have small' : c.toLower.toNat < 128 := by
      rw [toNat_toLower]
      split_ifs <;> omega
    rw [facts.ascii c small, facts.ascii c.toLower small', toLower_toLower]
  · have same : c.toLower = c := by
      rw [← Char.toNat_inj, toNat_toLower]
      split_ifs <;> omega
    rw [same]

theorem caseIgnorableThenCased_map (chars : Str) :
    tables.caseIgnorableThenCased (chars.map Char.toLower) =
      tables.caseIgnorableThenCased chars := by
  have keeps : tables.caseIgnorable ∘ Char.toLower = tables.caseIgnorable :=
    funext facts.caseIgnorable
  rw [CaseTables.caseIgnorableThenCased, CaseTables.caseIgnorableThenCased, List.dropWhile_map,
    keeps]
  cases chars.dropWhile tables.caseIgnorable with
  | nil => rfl
  | cons c rest => exact facts.cased c

/-- Lowercasing the ASCII letters first makes no difference, in any context. -/
theorem lowercaseFrom_map (before s : Str) :
    tables.lowercaseFrom (before.map Char.toLower) (s.map Char.toLower) =
      tables.lowercaseFrom before s := by
  have capital : ∀ c : Char, c.toLower = 'Σ' ↔ c = 'Σ' := toLower_eq_iff (by decide) (by decide)
  induction s generalizing before with
  | nil => rfl
  | cons c rest ih =>
      have head : tables.lowerAt (before.map Char.toLower) c.toLower (rest.map Char.toLower) =
          tables.lowerAt before c rest := by
        by_cases isCapital : c = 'Σ'
        · rw [CaseTables.lowerAt, if_pos ((capital c).mpr isCapital), CaseTables.lowerAt,
            if_pos isCapital, CaseTables.mapUppercaseSigma, CaseTables.mapUppercaseSigma,
            CaseTables.isWordFinal, CaseTables.isWordFinal, facts.caseIgnorableThenCased_map,
            facts.caseIgnorableThenCased_map]
        · rw [tables.lowerAt_of_ne (mt (capital c).mp isCapital), tables.lowerAt_of_ne isCapital,
            facts.lower_toLower]
      rw [List.map_cons, tables.lowercaseFrom_cons, tables.lowercaseFrom_cons, head]
      have tail := ih (c :: before)
      rw [List.map_cons] at tail
      rw [tail]

/-- `str::to_lowercase` ignores the case of ASCII letters. -/
theorem toLowercase_congr {s t : Str} (same : toAsciiLowercase s = toAsciiLowercase t) :
    tables.toLowercase s = tables.toLowercase t := by
  have through : ∀ r : Str, tables.toLowercase r = tables.toLowercase (toAsciiLowercase r) :=
    fun r => (facts.lowercaseFrom_map [] r).symm
  rw [through s, same, ← through t]

end LowercaseFacts

/-! ## Two Greek letters and the Kelvin sign -/

/-- The tables for ASCII, the Greek letters alpha and sigma, and the Kelvin sign. -/
def greekTables : CaseTables where
  lower
    | 'Α' => ['α']
    | 'Σ' => ['σ']
    | '\u212A' => ['k']
    | c => [c.toLower]
  upper
    | 'α' => 'Α'
    | 'σ' => 'Σ'
    | 'ς' => 'Σ'
    | c => c.toUpper
  cased c := c.toLower != c.toUpper || "ΑΣασς\u212A".toList.contains c
  caseIgnorable c := "'.:^`".toList.contains c

/-- Outside the three letters the tables are those of ASCII. -/
theorem greekTables_lower_of_ne {c : Char} (notAlpha : c ≠ 'Α') (notSigma : c ≠ 'Σ')
    (notKelvin : c ≠ '\u212A') : greekTables.lower c = [c.toLower] := by
  simp [greekTables]

/-- A character is one of the three letters, or is treated as in ASCII and does
not turn into one of them. -/
theorem greekTables_cases (c : Char) :
    (c = 'Α' ∨ c = 'Σ' ∨ c = '\u212A') ∨
      greekTables.lower c = [c.toLower] ∧ greekTables.lower c.toLower = [c.toLower] ∧
        c.toLower ≠ 'Σ' := by
  by_cases letters : c = 'Α' ∨ c = 'Σ' ∨ c = '\u212A'
  · exact Or.inl letters
  · right
    simp only [not_or] at letters
    rcases letters with ⟨notAlpha, notSigma, notKelvin⟩
    have alpha := toLower_eq_iff (a := 'Α') (by decide) (by decide) c
    have sigma := toLower_eq_iff (a := 'Σ') (by decide) (by decide) c
    have kelvin := toLower_eq_iff (a := '\u212A') (by decide) (by decide) c
    rw [greekTables_lower_of_ne notAlpha notSigma notKelvin,
      greekTables_lower_of_ne (mt alpha.mp notAlpha) (mt sigma.mp notSigma)
      (mt kelvin.mp notKelvin), toLower_toLower]
    exact ⟨rfl, rfl, mt sigma.mp notSigma⟩

theorem lowercaseFacts_greekTables : LowercaseFacts greekTables where
  nonempty c := by
    rcases greekTables_cases c with letters | ⟨lower_eq, _⟩
    · rcases letters with rfl | rfl | rfl <;> decide
    · rw [lower_eq]
      exact List.cons_ne_nil _ _
  fixed c d member := by
    rcases greekTables_cases c with letters | ⟨lower_eq, again, notSigma⟩
    · rcases letters with rfl | rfl | rfl <;> cases List.mem_singleton.mp member <;> decide
    · rw [lower_eq, List.mem_singleton] at member
      subst member
      exact ⟨notSigma, again⟩
  smallSigma := by decide
  finalSigma := by decide
  slash c := by
    have slash : c.toLower = '/' ↔ c = '/' := toLower_eq_iff (by decide) (by decide) c
    rcases greekTables_cases c with letters | ⟨lower_eq, _⟩
    · rcases letters with rfl | rfl | rfl <;> decide
    · rw [lower_eq, List.mem_singleton, eq_comm, slash]
  space c d member := by
    rcases greekTables_cases c with letters | ⟨lower_eq, _⟩
    · rcases letters with rfl | rfl | rfl <;> cases List.mem_singleton.mp member <;> decide
    · rw [lower_eq, List.mem_singleton] at member
      subst member
      exact isWhitespace_toLower c
  root c d letter member := by
    rcases greekTables_cases c with letters | ⟨lower_eq, _⟩
    · rcases letters with rfl | rfl | rfl <;> cases List.mem_singleton.mp member <;>
        exact absurd letter (by decide)
    · rw [lower_eq, List.mem_singleton] at member
      subst member
      exact ⟨lower_eq, rfl⟩
  ascii c small := by
    rcases greekTables_cases c with letters | ⟨lower_eq, _⟩
    · rcases letters with rfl | rfl | rfl <;> exact absurd small (by decide)
    · exact lower_eq
  cased c := by
    have letters : c.toLower ∈ "ΑΣασς\u212A".toList ↔ c ∈ "ΑΣασς\u212A".toList := by
      change c.toLower ∈ ['Α', 'Σ', 'α', 'σ', 'ς', '\u212A'] ↔
        c ∈ ['Α', 'Σ', 'α', 'σ', 'ς', '\u212A']
      apply toLower_mem_iff
      simp only [List.forall_mem_cons, List.not_mem_nil, false_imp_iff, implies_true, and_true]
      refine ⟨?_, ?_, ?_, ?_, ?_, ?_⟩ <;> exact toLower_eq_iff (by decide) (by decide) c
    simp only [greekTables, toLower_toLower, toUpper_toLower, List.contains_eq_mem, letters]
  caseIgnorable c := by
    have marks : c.toLower ∈ "'.:^`".toList ↔ c ∈ "'.:^`".toList := by
      change c.toLower ∈ ['\'', '.', ':', '^', '\u0060'] ↔ c ∈ ['\'', '.', ':', '^', '\u0060']
      apply toLower_mem_iff
      simp only [List.forall_mem_cons, List.not_mem_nil, false_imp_iff, implies_true, and_true]
      refine ⟨?_, ?_, ?_, ?_, ?_⟩ <;> exact toLower_eq_iff (by decide) (by decide) c
    simp only [greekTables, List.contains_eq_mem, marks]

end KdbxCredentials.Lookup
