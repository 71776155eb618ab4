import KdbxCredentials.Descent.Counting
import KdbxCredentials.Lookup.Chain

/-!
# Lookup and the number of matching entries

A match of a path is any entry at the end of any chain of groups that spells
the path; sibling groups may share a name, so there can be several chains.  The
walk of `find_group` follows only the first child group of each name.  Its
matches are therefore matches, but not always all of them, and the outcome of a
lookup counts the ones it sees.
-/

namespace KdbxCredentials.Lookup

open KdbxCredentials.Text
open KdbxCredentials.Descent
open KdbxCredentials.Rust

variable (toLowercase : Str → Str)

/-- The entry `e` matches the path: it lies at the end of some chain. -/
def IsMatch (db : KpDatabase) (parsed : ParsedPath) (e : NodePtr) : Prop :=
  ∃ group, GroupChain toLowercase db.rootPtr parsed.groups group ∧
    e ∈ childPtrs group ∧ TitledEntry toLowercase parsed.title e

/-- The entry `e` lies at the end of the chain of first child groups. -/
def IsFirstMatch (db : KpDatabase) (parsed : ParsedPath) (e : NodePtr) : Prop :=
  ∃ group, FirstChain toLowercase db.rootPtr parsed.groups group ∧
    e ∈ childPtrs group ∧ TitledEntry toLowercase parsed.title e

/-- The outcome of a lookup is the number of matches in the whole database. -/
structure DecidedByMatchCount (db : KpDatabase) (path : Str) (parsed : ParsedPath) : Prop where
  notFound : lookup toLowercase db path = .error (.entryNotFound path) ↔
    ¬∃ e, IsMatch toLowercase db parsed e
  ambiguous : lookup toLowercase db path = .error (.ambiguousEntry path) ↔
    Several (IsMatch toLowercase db parsed)
  found : (∃ entry, lookup toLowercase db path = .ok entry) ↔
    ∃! e, IsMatch toLowercase db parsed e

variable {toLowercase}

theorem IsFirstMatch.isMatch {db : KpDatabase} {parsed : ParsedPath} {e : NodePtr}
    (first : IsFirstMatch toLowercase db parsed e) : IsMatch toLowercase db parsed e := by
  rcases first with ⟨group, chain, member, titled⟩
  exact ⟨group, chain.groupChain, member, titled⟩

variable (toLowercase)

/-! ## What a lookup sees -/

/-- The list a lookup counts holds exactly the first matches. -/
theorem mem_firstMatches_iff (db : KpDatabase) (parsed : ParsedPath) (e : NodePtr) :
    e ∈ firstMatches toLowercase db parsed ↔ IsFirstMatch toLowercase db parsed e := by
  rw [firstMatches]
  cases walk : findGroup toLowercase db.rootPtr parsed.groups with
  | none =>
      simp only [List.not_mem_nil, false_iff]
      rintro ⟨group, chain, _⟩
      rw [← findGroup_eq_some_iff, walk] at chain
      contradiction
  | some group =>
      rw [mem_matchingEntries_iff, titleMatches_iff]
      constructor
      · rintro ⟨member, isEntry, titled⟩
        exact ⟨group, (findGroup_eq_some_iff ..).mp walk, member, isEntry, titled⟩
      · rintro ⟨group', chain, member, isEntry, titled⟩
        rw [← findGroup_eq_some_iff, walk] at chain
        rw [Option.some.inj chain]
        exact ⟨member, isEntry, titled⟩

theorem nodup_firstMatches (db : KpDatabase) (parsed : ParsedPath) :
    (firstMatches toLowercase db parsed).Nodup := by
  rw [firstMatches]
  cases findGroup toLowercase db.rootPtr parsed.groups with
  | none => exact List.nodup_nil
  | some group =>
      change (matchingEntries toLowercase group parsed.title).Nodup
      rw [matchingEntries, groupGetChildren_getD]
      exact (nodup_childPtrs group).filter _

/-- A lookup is decided by the number of its first matches. -/
theorem locate_cases (db : KpDatabase) {path : Str} {parsed : ParsedPath}
    (accepted : parse toLowercase path = .ok parsed) :
    (locate toLowercase db path = .error (.entryNotFound path) ↔
        ¬∃ e, IsFirstMatch toLowercase db parsed e) ∧
      (locate toLowercase db path = .error (.ambiguousEntry path) ↔
        Several (IsFirstMatch toLowercase db parsed)) ∧
      ((∃ e, locate toLowercase db path = .ok e) ↔
        ∃! e, IsFirstMatch toLowercase db parsed e) := by
  have listed := mem_firstMatches_iff toLowercase db parsed
  have nodup := nodup_firstMatches toLowercase db parsed
  rw [← eq_nil_iff_not_exists listed, ← two_iff_several listed nodup,
    ← singleton_iff_existsUnique listed nodup, locate_eq_outcome toLowercase db accepted]
  rcases firstMatches toLowercase db parsed with _ | ⟨node, _ | ⟨next, rest⟩⟩ <;> simp [outcome]

theorem lookup_eq_error_iff (db : KpDatabase) (path : Str) (error : KdbxError) :
    lookup toLowercase db path = .error error ↔
      locate toLowercase db path = .error error := by
  rw [lookup_eq_map]
  cases locate toLowercase db path <;> simp [Except.map]

theorem lookup_ok_iff (db : KpDatabase) (path : Str) :
    (∃ entry, lookup toLowercase db path = .ok entry) ↔
      ∃ e, locate toLowercase db path = .ok e := by
  rw [lookup_eq_map]
  cases locate toLowercase db path <;> simp [Except.map]

/-! ## When the count is the right one -/

/-- The number of matches in the whole database decides a lookup exactly when
no match lies off the chain of first child groups, or two already lie on it. -/
theorem decidedByMatchCount_iff (db : KpDatabase) (path : Str) (parsed : ParsedPath)
    (accepted : parse toLowercase path = .ok parsed) :
    DecidedByMatchCount toLowercase db path parsed ↔
      (∀ e, IsMatch toLowercase db parsed e → IsFirstMatch toLowercase db parsed e) ∨
        Several (IsFirstMatch toLowercase db parsed) := by
  have sub : ∀ e, IsFirstMatch toLowercase db parsed e → IsMatch toLowercase db parsed e :=
    fun e first => first.isMatch
  rcases locate_cases toLowercase db accepted with ⟨none_iff, several_iff, one_iff⟩
  rw [← counts_agree_iff sub]
  constructor
  · rintro ⟨notFound, ambiguous, found⟩
    rw [lookup_eq_error_iff, none_iff, not_iff_not] at notFound
    rw [lookup_eq_error_iff, several_iff] at ambiguous
    rw [lookup_ok_iff, one_iff] at found
    exact ⟨notFound, ambiguous, found⟩
  · rintro ⟨notFound, ambiguous, found⟩
    constructor
    · rw [lookup_eq_error_iff, none_iff, not_iff_not]
      exact notFound
    · rw [lookup_eq_error_iff, several_iff]
      exact ambiguous
    · rw [lookup_ok_iff, one_iff]
      exact found

/-! ## Sibling groups of one name -/

/-- Two sibling groups named `a`, the second one holding an entry `t`. -/
def twinGroups : KpDatabase where
  root := .group (some "Root".toList)
    [.group (some "a".toList) [],
      .group (some "A".toList) [.entry ⟨some "t".toList, none, some "pw".toList, none, none⟩]]
  root_isGroup := rfl

/-- The entry in the second group matches `a/t`, and the lookup reports that
nothing does. -/
theorem twinGroups_not_decidedByMatchCount :
    parse toAsciiLowercase "a/t".toList = .ok ⟨["a".toList], "t".toList⟩ ∧
      ¬DecidedByMatchCount toAsciiLowercase twinGroups "a/t".toList
        ⟨["a".toList], "t".toList⟩ := by
  constructor
  · decide
  · intro decided
    have missed : lookup toAsciiLowercase twinGroups "a/t".toList =
        .error (.entryNotFound "a/t".toList) := by decide
    apply decided.notFound.mp missed
    refine ⟨⟨[1, 0], .entry ⟨some "t".toList, none, some "pw".toList, none, none⟩⟩,
      ⟨[1], .group (some "A".toList)
        [.entry ⟨some "t".toList, none, some "pw".toList, none, none⟩]⟩, ?_, ?_, ?_⟩
    · apply GroupChain.step _ ⟨rfl, "A".toList, rfl, by decide⟩ (GroupChain.here _)
      exact mem_childPtrs_iff.mpr ⟨1, rfl, rfl⟩
    · exact mem_childPtrs_iff.mpr ⟨0, rfl, rfl⟩
    · exact ⟨rfl, "t".toList, rfl, by decide⟩

theorem decidedByMatchCount_iff_twinGroups :
    DecidedByMatchCount toAsciiLowercase twinGroups "a/t".toList
        ⟨["a".toList], "t".toList⟩ ↔
      (∀ e, IsMatch toAsciiLowercase twinGroups ⟨["a".toList], "t".toList⟩ e →
          IsFirstMatch toAsciiLowercase twinGroups ⟨["a".toList], "t".toList⟩ e) ∨
        Several (IsFirstMatch toAsciiLowercase twinGroups ⟨["a".toList], "t".toList⟩) :=
  decidedByMatchCount_iff toAsciiLowercase twinGroups "a/t".toList ⟨["a".toList], "t".toList⟩
    (by decide)

end KdbxCredentials.Lookup
