import KdbxCredentials.CSharp.Database
import KdbxCredentials.Lookup.Lowercasing

/-!
# Two notions of case-insensitive equality

Rust compares the lowercase forms of whole strings, C# the uppercase forms of
single characters.  Two characters clash when only one test takes them for
equal, or when the lowercase form of one begins that of the other.  Without a
clash the tests agree, except where only one of the strings has a sigma at the
end of a word; and every clash makes them disagree on some strings.
-/

namespace KdbxCredentials.Lookup

open KdbxCredentials.Text hiding trim
open KdbxCredentials.Rust
open KdbxCredentials.CSharp (equalsOrdinalIgnoreCase)

variable (tables : CaseTables)

/-- The Rust test of a stored name against a segment of a path. -/
def rustTest (name segment : Str) : Bool :=
  tables.toLowercase name == tables.toLowercase segment

/-- The C# test of a stored name against a segment of a path. -/
def csharpTest (name segment : Str) : Bool :=
  equalsOrdinalIgnoreCase tables.upper name segment

/-- `title_matches` applies the Rust test to the name of a node. -/
theorem titleMatches_toLowercase {node : NodePtr} {name : Str}
    (named : node.node.getTitle = some name) (segment : Str) :
    titleMatches tables.toLowercase node (tables.toLowercase segment) =
      rustTest tables name segment := by
  rw [titleMatches, named]
  rfl

/-- The facts of the Unicode Character Database on which the comparison rests. -/
structure StandardTables : Prop where
  nonempty : ∀ c, tables.lower c ≠ []
  lower_lower : ∀ c, ∀ d ∈ tables.lower c, tables.lower d = [d]
  caseless : ∀ c, isWhitespace c = true ∨ c = '/' → tables.lower c = [c] ∧ tables.upper c = c
  lower_capitalSigma : tables.lower 'Σ' = ['σ']
  lower_finalSigma : tables.lower 'ς' = ['ς']
  upper_capitalSigma : tables.upper 'Σ' = 'Σ'
  upper_smallSigma : tables.upper 'σ' = 'Σ'
  upper_finalSigma : tables.upper 'ς' = 'Σ'
  smallSigma_only : ∀ c, 'σ' ∈ tables.lower c → c = 'Σ' ∨ c = 'σ'
  finalSigma_only : ∀ c, 'ς' ∈ tables.lower c → c = 'ς'

/-- The lowercase form of a character, with a final sigma counted as a small one. -/
def letterFold (c : Char) : Str :=
  if c = 'ς' then ['σ'] else tables.lower c

/-- Two characters do not clash: both tests or neither take them for equal, and
the lowercase form of one does not begin a longer one of the other. -/
structure Compatible (c d : Char) : Prop where
  same : letterFold tables c = letterFold tables d ↔ tables.upper c = tables.upper d
  apart : letterFold tables c <+: letterFold tables d ∨
    letterFold tables d <+: letterFold tables c → letterFold tables c = letterFold tables d

/-- The sigma `c` is a final one, or becomes one between `before` and `after`. -/
def isFinalSigma (before : Str) (c : Char) (after : Str) : Bool :=
  c == 'ς' || c == 'Σ' && tables.isWordFinal before after

/-- Which characters after `before` are, or become, final sigmas. -/
def finalSigmasFrom : Str → Str → List Bool
  | _, [] => []
  | before, c :: after => isFinalSigma tables before c after :: finalSigmasFrom (c :: before) after

/-- Which characters of a string are, or become, final sigmas. -/
def finalSigmas (s : Str) : List Bool :=
  finalSigmasFrom tables [] s

variable {tables}

/-! ## Strings without a clash -/

theorem letterFold_of_ne {c : Char} (other : c ≠ 'ς') : letterFold tables c = tables.lower c :=
  if_neg other

theorem letterFold_ne_nil (standard : StandardTables tables) (c : Char) :
    letterFold tables c ≠ [] := by
  rw [letterFold]
  split_ifs
  · exact List.cons_ne_nil _ _
  · exact standard.nonempty c

/-- A character has its fold as lowercase form unless it ends as a final sigma,
which no other character contains. -/
theorem lowerAt_fold (standard : StandardTables tables) (before : Str) (c : Char) (after : Str) :
    (isFinalSigma tables before c after = true ∧ tables.lowerAt before c after = ['ς'] ∧
        letterFold tables c = ['σ']) ∨
      isFinalSigma tables before c after = false ∧
        tables.lowerAt before c after = letterFold tables c ∧ 'ς' ∉ letterFold tables c := by
  by_cases isFinal : c = 'ς'
  · left
    subst c
    rw [tables.lowerAt_of_ne (by decide), standard.lower_finalSigma]
    exact ⟨rfl, rfl, rfl⟩
  · rw [letterFold_of_ne isFinal]
    by_cases isCapital : c = 'Σ'
    · subst c
      rw [CaseTables.lowerAt, if_pos rfl, CaseTables.mapUppercaseSigma,
        standard.lower_capitalSigma]
      cases wordFinal : tables.isWordFinal before after with
      | true => exact Or.inl ⟨by simp [isFinalSigma, wordFinal], rfl, rfl⟩
      | false => exact Or.inr ⟨by simp [isFinalSigma, wordFinal], rfl, by decide⟩
    · right
      rw [tables.lowerAt_of_ne isCapital]
      exact ⟨by simp [isFinalSigma, isFinal, isCapital], rfl,
        fun member => isFinal (standard.finalSigma_only c member)⟩

theorem lowerAt_ne_nil (standard : StandardTables tables) (before : Str) (c : Char)
    (after : Str) : tables.lowerAt before c after ≠ [] := by
  rcases lowerAt_fold standard before c after with ⟨_, lower_eq, _⟩ | ⟨_, lower_eq, _⟩
  · simp [lower_eq]
  · rw [lower_eq]
    exact letterFold_ne_nil standard c

/-- Two characters that do not clash have the same lowercase form exactly when
they have the same uppercase form and both or neither end as final sigmas. -/
theorem lowerAt_eq_iff (standard : StandardTables tables) {c d : Char}
    (compatible : Compatible tables c d) (before after before' after' : Str) :
    tables.lowerAt before c after = tables.lowerAt before' d after' ↔
      tables.upper c = tables.upper d ∧
        isFinalSigma tables before c after = isFinalSigma tables before' d after' := by
  rcases lowerAt_fold standard before c after with
    ⟨isFinal, lower_eq, fold_eq⟩ | ⟨isFinal, lower_eq, free⟩
  · rcases lowerAt_fold standard before' d after' with
      ⟨isFinal', lower_eq', fold_eq'⟩ | ⟨isFinal', lower_eq', free'⟩
    · have sameUpper := compatible.same.mp (fold_eq.trans fold_eq'.symm)
      simp [isFinal, isFinal', lower_eq, lower_eq', sameUpper]
    · have differ : ['ς'] ≠ letterFold tables d := by
        intro same
        simp [← same] at free'
      simp [isFinal, isFinal', lower_eq, lower_eq', differ]
  · rcases lowerAt_fold standard before' d after' with
      ⟨isFinal', lower_eq', _⟩ | ⟨isFinal', lower_eq', _⟩
    · have differ : letterFold tables c ≠ ['ς'] := by
        intro same
        simp [same] at free
      simp [isFinal, isFinal', lower_eq, lower_eq', differ]
    · rw [isFinal, isFinal', lower_eq, lower_eq', compatible.same]
      simp

/-- A nonempty list that begins a single element, or begins with it, contains it. -/
theorem mem_of_begins {x : Char} {l : Str} (nonempty : l ≠ [])
    (begins : l <+: [x] ∨ [x] <+: l) : x ∈ l := by
  rcases begins with shorter | longer
  · rcases List.prefix_cons_iff.mp shorter with rfl | ⟨rest, rfl, _⟩
    · contradiction
    · exact List.mem_cons_self
  · exact longer.subset List.mem_cons_self

/-- The lowercase forms of two characters that do not clash are equal or neither
begins the other. -/
theorem lowerAt_eq_of_begins (standard : StandardTables tables) {c d : Char}
    (compatible : Compatible tables c d) {before after before' after' : Str}
    (begins : tables.lowerAt before c after <+: tables.lowerAt before' d after' ∨
      tables.lowerAt before' d after' <+: tables.lowerAt before c after) :
    tables.lowerAt before c after = tables.lowerAt before' d after' := by
  rcases lowerAt_fold standard before c after with
    ⟨_, lower_eq, _⟩ | ⟨_, lower_eq, free⟩
  · rcases lowerAt_fold standard before' d after' with
      ⟨_, lower_eq', _⟩ | ⟨_, lower_eq', free'⟩
    · rw [lower_eq, lower_eq']
    · rw [lower_eq, lower_eq'] at begins
      exact absurd (mem_of_begins (letterFold_ne_nil standard d) begins.symm) free'
  · rcases lowerAt_fold standard before' d after' with
      ⟨_, lower_eq', _⟩ | ⟨_, lower_eq', _⟩
    · rw [lower_eq, lower_eq'] at begins
      exact absurd (mem_of_begins (letterFold_ne_nil standard c) begins) free
    · rw [lower_eq, lower_eq'] at begins ⊢
      exact compatible.apart begins

/-- The tests on the rest of two strings, after any characters. -/
theorem lowercaseFrom_eq_iff (standard : StandardTables tables) {s t : Str}
    (compatible : ∀ c ∈ s, ∀ d ∈ t, Compatible tables c d) (before before' : Str) :
    tables.lowercaseFrom before s = tables.lowercaseFrom before' t ↔
      s.map tables.upper = t.map tables.upper ∧
        finalSigmasFrom tables before s = finalSigmasFrom tables before' t := by
  induction s generalizing t before before' with
  | nil =>
      cases t with
      | nil => simp [finalSigmasFrom]
      | cons d t =>
          have nonempty := lowerAt_ne_nil standard before' d t
          simp [tables.lowercaseFrom_cons, nonempty]
  | cons c s ih =>
      cases t with
      | nil =>
          have nonempty := lowerAt_ne_nil standard before c s
          simp [tables.lowercaseFrom_cons, nonempty]
      | cons d t =>
          have head := compatible c List.mem_cons_self d List.mem_cons_self
          have heads := lowerAt_eq_iff standard head before s before' t
          have tails := ih (fun x xMem y yMem => compatible x (List.mem_cons_of_mem c xMem) y
            (List.mem_cons_of_mem d yMem)) (c :: before) (d :: before')
          rw [tables.lowercaseFrom_cons, tables.lowercaseFrom_cons, List.map_cons, List.map_cons,
            finalSigmasFrom, finalSigmasFrom, List.cons.injEq, List.cons.injEq]
          constructor
          · intro same
            have left := List.prefix_append (tables.lowerAt before c s)
              (tables.lowercaseFrom (c :: before) s)
            have right := List.prefix_append (tables.lowerAt before' d t)
              (tables.lowercaseFrom (d :: before') t)
            rw [same] at left
            have headSame := lowerAt_eq_of_begins standard head
              (List.prefix_or_prefix_of_prefix left right)
            rw [headSame, List.append_cancel_left_eq, tails] at same
            rw [heads] at headSame
            exact ⟨⟨headSame.1, same.1⟩, headSame.2, same.2⟩
          · rintro ⟨⟨sameUpper, restUpper⟩, sameFinal, restFinal⟩
            rw [heads.mpr ⟨sameUpper, sameFinal⟩, tails.mpr ⟨restUpper, restFinal⟩]

/-! ## Clashing characters -/

variable (tables)

/-- The tests differ on some name and segment with one of the characters each. -/
def TestsDiffer (c d : Char) : Prop :=
  ∃ name segment, PlainSegment segment ∧ (c ∈ name ∧ d ∈ segment ∨ d ∈ name ∧ c ∈ segment) ∧
    rustTest tables name segment ≠ csharpTest tables name segment

variable {tables}

/-- A character at the start of a string is looked up. -/
theorem lowerAt_start (standard : StandardTables tables) (c : Char) (after : Str) :
    tables.lowerAt [] c after = tables.lower c := by
  by_cases isCapital : c = 'Σ'
  · subst c
    rw [standard.lower_capitalSigma]
    rfl
  · exact tables.lowerAt_of_ne isCapital [] after

theorem toLowercase_singleton (standard : StandardTables tables) (c : Char) :
    tables.toLowercase [c] = tables.lower c := by
  rw [CaseTables.toLowercase, tables.lowercaseFrom_cons, tables.lowercaseFrom_nil,
    List.append_nil, lowerAt_start standard]

/-- What follows the first character stays as it is when it is lowercase. -/
theorem toLowercase_cons (standard : StandardTables tables) {c d : Char} {rest : Str}
    (lowered : ∀ x ∈ rest, x ∈ tables.lower d) :
    tables.toLowercase (c :: rest) = tables.lower c ++ rest := by
  rw [CaseTables.toLowercase, tables.lowercaseFrom_cons, lowerAt_start standard,
    tables.lowercaseFrom_eq_self]
  intro x member
  have fixed := standard.lower_lower d x (lowered x member)
  constructor
  · rintro rfl
    rw [standard.lower_capitalSigma] at fixed
    exact absurd fixed (by decide)
  · exact fixed

theorem rustTest_singleton (standard : StandardTables tables) (c d : Char) :
    rustTest tables [c] [d] = true ↔ tables.lower c = tables.lower d := by
  rw [rustTest, toLowercase_singleton standard, toLowercase_singleton standard, beq_iff_eq]

theorem csharpTest_singleton (c d : Char) :
    csharpTest tables [c] [d] = true ↔ tables.upper c = tables.upper d := by
  simp [csharpTest, equalsOrdinalIgnoreCase]

/-- A character is a segment unless it is whitespace or a separator. -/
theorem plainSegment_singleton_or (c : Char) :
    PlainSegment [c] ∨ isWhitespace c = true ∨ c = '/' := by
  by_cases special : isWhitespace c = true ∨ c = '/'
  · exact Or.inr special
  · left
    rw [not_or, Bool.not_eq_true] at special
    constructor
    · exact List.cons_ne_nil c []
    · simpa using Ne.symm special.2
    · constructor
      · simpa using special.1
      · simpa using special.1

/-- Characters without case do not clash. -/
theorem compatible_of_caseless (standard : StandardTables tables) {c d : Char}
    (caseless : isWhitespace c = true ∨ c = '/') (caseless' : isWhitespace d = true ∨ d = '/') :
    Compatible tables c d := by
  have fold : ∀ x, isWhitespace x = true ∨ x = '/' → letterFold tables x = [x] := by
    intro x special
    have notFinal : x ≠ 'ς' := by
      rintro rfl
      exact absurd special (by decide)
    rw [letterFold_of_ne notFinal]
    exact (standard.caseless x special).1
  constructor
  · rw [fold c caseless, fold d caseless', (standard.caseless c caseless).2,
      (standard.caseless d caseless').2, List.cons.injEq, and_iff_left rfl]
  · rw [fold c caseless, fold d caseless']
    rintro (begins | begins)
    · exact begins.eq_of_length rfl
    · exact (begins.eq_of_length rfl).symm

/-- Two characters on which the tests differ differ as a name and a segment. -/
theorem testsDiffer_of_singletons (standard : StandardTables tables) {c d : Char}
    (clash : ¬Compatible tables c d)
    (differ : ¬(tables.lower c = tables.lower d ↔ tables.upper c = tables.upper d)) :
    TestsDiffer tables c d := by
  rcases plainSegment_singleton_or d with plain | caseless'
  · refine ⟨[c], [d], plain, Or.inl ⟨List.mem_cons_self, List.mem_cons_self⟩, ?_⟩
    intro same
    rw [← rustTest_singleton standard, ← csharpTest_singleton, same] at differ
    exact differ Iff.rfl
  · rcases plainSegment_singleton_or c with plain | caseless
    · refine ⟨[d], [c], plain, Or.inr ⟨List.mem_cons_self, List.mem_cons_self⟩, ?_⟩
      intro same
      rw [eq_comm, eq_comm (a := tables.upper c), ← rustTest_singleton standard,
        ← csharpTest_singleton, same] at differ
      exact differ Iff.rfl
    · exact absurd (compatible_of_caseless standard caseless caseless') clash

theorem lower_smallSigma (standard : StandardTables tables) : tables.lower 'σ' = ['σ'] := by
  apply standard.lower_lower 'Σ'
  rw [standard.lower_capitalSigma]
  exact List.mem_cons_self

/-- The characters with the fold of the small sigma are the three sigmas. -/
theorem fold_of_smallSigma_mem (standard : StandardTables tables) {c : Char}
    (member : 'σ' ∈ letterFold tables c) :
    letterFold tables c = ['σ'] ∧ tables.upper c = 'Σ' := by
  by_cases isFinal : c = 'ς'
  · subst c
    exact ⟨rfl, standard.upper_finalSigma⟩
  · rw [letterFold_of_ne isFinal] at member ⊢
    rcases standard.smallSigma_only c member with rfl | rfl
    · exact ⟨standard.lower_capitalSigma, standard.upper_capitalSigma⟩
    · exact ⟨lower_smallSigma standard, standard.upper_smallSigma⟩

/-- Folds are equal for equal lowercase forms, and for nothing else but sigmas. -/
theorem letterFold_eq_of_lower_eq (standard : StandardTables tables) {c d : Char}
    (same : tables.lower c = tables.lower d) : letterFold tables c = letterFold tables d := by
  have final : ∀ x y, tables.lower x = tables.lower y → x = 'ς' → y = 'ς' := by
    rintro x y equal rfl
    apply standard.finalSigma_only
    rw [← equal, standard.lower_finalSigma]
    exact List.mem_cons_self
  by_cases isFinal : c = 'ς'
  · rw [isFinal, final c d same isFinal]
  · have isFinal' : d ≠ 'ς' := fun equal => isFinal (final d c same.symm equal)
    rw [letterFold_of_ne isFinal, letterFold_of_ne isFinal', same]

theorem lower_eq_of_letterFold_eq (standard : StandardTables tables) {c d : Char}
    (same : letterFold tables c = letterFold tables d)
    (differ : tables.upper c ≠ tables.upper d) : tables.lower c = tables.lower d := by
  have notFinal : ∀ x y, letterFold tables x = letterFold tables y →
      tables.upper x ≠ tables.upper y → x ≠ 'ς' := by
    rintro x y equal unlike rfl
    have member : 'σ' ∈ letterFold tables y := by
      rw [← equal]
      exact List.mem_cons_self
    apply unlike
    rw [(fold_of_smallSigma_mem standard member).2, standard.upper_finalSigma]
  rw [← letterFold_of_ne (notFinal c d same differ),
    ← letterFold_of_ne (notFinal d c same.symm differ.symm), same]

/-- When the lowercase form of `c` properly begins that of `d`, Rust takes `c` and
the rest of that form for equal to `d`, and C# no strings of different lengths. -/
theorem testsDiffer_of_begins (standard : StandardTables tables) {c d : Char}
    (begins : letterFold tables c <+: letterFold tables d)
    (proper : letterFold tables c ≠ letterFold tables d) :
    ∃ name, PlainSegment [d] ∧ c ∈ name ∧
      rustTest tables name [d] ≠ csharpTest tables name [d] := by
  have notFinal : d ≠ 'ς' := by
    rintro rfl
    rcases List.prefix_cons_iff.mp begins with empty | ⟨rest, fold_eq, short⟩
    · exact letterFold_ne_nil standard c empty
    · rw [List.prefix_nil.mp short] at fold_eq
      exact proper fold_eq
  have notFinal' : c ≠ 'ς' := by
    rintro rfl
    have member : 'σ' ∈ letterFold tables d := begins.subset List.mem_cons_self
    exact proper (fold_of_smallSigma_mem standard member).1.symm
  rw [letterFold_of_ne notFinal, letterFold_of_ne notFinal'] at begins proper
  obtain ⟨rest, lower_eq⟩ := begins
  have rest_ne : rest ≠ [] := by
    rintro rfl
    rw [List.append_nil] at lower_eq
    exact proper lower_eq
  have plain : PlainSegment [d] := by
    rcases plainSegment_singleton_or d with plain | caseless
    · exact plain
    · rw [(standard.caseless d caseless).1] at lower_eq
      rcases List.append_eq_singleton_iff.mp lower_eq with ⟨empty, _⟩ | ⟨_, empty⟩
      · exact absurd empty (standard.nonempty c)
      · exact absurd empty rest_ne
  have rust : rustTest tables (c :: rest) [d] = true := by
    have lowered : ∀ x ∈ rest, x ∈ tables.lower d := by
      rw [← lower_eq]
      exact fun x member => List.mem_append_right _ member
    rw [rustTest, toLowercase_cons standard lowered, toLowercase_singleton standard, lower_eq,
      beq_self_eq_true]
  have csharp : csharpTest tables (c :: rest) [d] = false := by
    simp [csharpTest, equalsOrdinalIgnoreCase, rest_ne]
  refine ⟨c :: rest, plain, List.mem_cons_self, ?_⟩
  rw [rust, csharp]
  decide

/-- Clashing characters make the tests differ. -/
theorem testsDiffer_of_clash (standard : StandardTables tables) {c d : Char}
    (clash : ¬Compatible tables c d) : TestsDiffer tables c d := by
  by_cases differ : tables.lower c = tables.lower d ↔ tables.upper c = tables.upper d
  · have same : letterFold tables c = letterFold tables d ↔ tables.upper c = tables.upper d := by
      constructor
      · intro fold_eq
        by_contra unlike
        exact unlike (differ.mp (lower_eq_of_letterFold_eq standard fold_eq unlike))
      · intro upper_eq
        exact letterFold_eq_of_lower_eq standard (differ.mpr upper_eq)
    by_contra agree
    apply clash
    constructor
    · exact same
    · rintro (begins | begins)
      · by_contra proper
        obtain ⟨name, plain, member, unlike⟩ := testsDiffer_of_begins standard begins proper
        exact agree ⟨name, [d], plain, Or.inl ⟨member, List.mem_cons_self⟩, unlike⟩
      · by_contra proper
        obtain ⟨name, plain, member, unlike⟩ :=
          testsDiffer_of_begins standard begins (Ne.symm proper)
        exact agree ⟨name, [c], plain, Or.inr ⟨member, List.mem_cons_self⟩, unlike⟩
  · exact testsDiffer_of_singletons standard clash differ

/-- On strings without clashing characters, Rust takes for equal what C# takes for
equal and has final sigmas at the same places.  Clashing characters make the tests
differ on strings that contain them. -/
theorem nameTests_agree (standard : StandardTables tables) :
    (∀ (node : NodePtr) (name segment : Str), node.node.getTitle = some name →
        (∀ c ∈ name, ∀ d ∈ segment, Compatible tables c d) →
        (titleMatches tables.toLowercase node (tables.toLowercase segment) = true ↔
          csharpTest tables name segment = true ∧
            finalSigmas tables name = finalSigmas tables segment)) ∧
      ∀ c d, ¬Compatible tables c d → TestsDiffer tables c d := by
  constructor
  · intro node name segment named compatible
    rw [titleMatches_toLowercase tables named, rustTest, csharpTest, equalsOrdinalIgnoreCase,
      beq_iff_eq, beq_iff_eq]
    exact lowercaseFrom_eq_iff standard compatible [] []
  · intro c d
    exact testsDiffer_of_clash standard

/-! ## The tests on Greek letters and the Kelvin sign -/

theorem greekTables_upper_of_ne {c : Char} (notAlpha : c ≠ 'α') (notSigma : c ≠ 'σ')
    (notFinal : c ≠ 'ς') : greekTables.upper c = c.toUpper := by
  simp [greekTables]

theorem standardTables_greekTables : StandardTables greekTables where
  nonempty := lowercaseFacts_greekTables.nonempty
  lower_lower c d member := (lowercaseFacts_greekTables.fixed c d member).2
  lower_capitalSigma := rfl
  lower_finalSigma := by decide
  upper_capitalSigma := by decide
  upper_smallSigma := rfl
  upper_finalSigma := rfl
  smallSigma_only c member := by
    rcases greekTables_cases c with letters | ⟨lower_eq, _⟩
    · rcases letters with rfl | rfl | rfl
      · exact absurd member (by decide)
      · exact Or.inl rfl
      · exact absurd member (by decide)
    · rw [lower_eq, List.mem_singleton, eq_comm, toLower_eq_iff (by decide) (by decide)] at member
      exact Or.inr member
  finalSigma_only c member := by
    rcases greekTables_cases c with letters | ⟨lower_eq, _⟩
    · rcases letters with rfl | rfl | rfl <;> exact absurd member (by decide)
    · rw [lower_eq, List.mem_singleton, eq_comm, toLower_eq_iff (by decide) (by decide)] at member
      exact member
  caseless c caseless := by
    rcases caseless with space | rfl
    · have notGreek : ∀ d : Char, isWhitespace d = false → c ≠ d := by
        rintro d notSpace rfl
        rw [notSpace] at space
        contradiction
      rcases not_letter_of_isWhitespace space with ⟨notLower, notUpper⟩
      rcases toLower_and_toUpper_eq_self notLower notUpper with ⟨lower_eq, upper_eq⟩
      constructor
      · rw [greekTables_lower_of_ne (notGreek 'Α' (by decide)) (notGreek 'Σ' (by decide))
          (notGreek '\u212A' (by decide)), lower_eq]
      · rw [greekTables_upper_of_ne (notGreek 'α' (by decide)) (notGreek 'σ' (by decide))
          (notGreek 'ς' (by decide)), upper_eq]
    · decide

/-- A name with a final sigma is found by C# alone under a path that spells it with
small sigmas, and a Kelvin sign by Rust alone under the letter. -/
theorem greekTables_tests_differ :
    (trim "ασ".toList = "ασ".toList ∧ rustTest greekTables "ΑΣ".toList "ασ".toList = false ∧
        csharpTest greekTables "ΑΣ".toList "ασ".toList = true) ∧
      trim "k".toList = "k".toList ∧ rustTest greekTables "\u212A".toList "k".toList = true ∧
        csharpTest greekTables "\u212A".toList "k".toList = false := by
  decide

theorem nameTests_agree_greekTables :
    (∀ (node : NodePtr) (name segment : Str), node.node.getTitle = some name →
        (∀ c ∈ name, ∀ d ∈ segment, Compatible greekTables c d) →
        (titleMatches greekTables.toLowercase node (greekTables.toLowercase segment) = true ↔
          csharpTest greekTables name segment = true ∧
            finalSigmas greekTables name = finalSigmas greekTables segment)) ∧
      ∀ c d, ¬Compatible greekTables c d → TestsDiffer greekTables c d :=
  nameTests_agree standardTables_greekTables

end KdbxCredentials.Lookup
