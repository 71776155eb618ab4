import KdbxCredentials.Rust.Path

/-!
# The grammar of paths

A path is grammatical when it has at least two pieces, none of them blank, and
does not start at the root group.  `parse` accepts exactly these paths, and
rejects every other one for the first reason that applies.  Its checks overlap,
so each reason is stated with the negation of those before it.
-/

namespace KdbxCredentials.Paths

open KdbxCredentials.Text hiding trim
open KdbxCredentials.Rust

/-- The maximal pieces of a path without a separator, in order. -/
def pieces (path : Str) : List Str :=
  path.splitOn '/'

theorem pieces_ne_nil (path : Str) : pieces path ≠ [] :=
  List.splitOn_ne_nil '/' path

/-- The pieces are free of separators and make up the path when joined. -/
theorem pieces_spec (path : Str) :
    ['/'].intercalate (pieces path) = path ∧ ∀ piece ∈ pieces path, '/' ∉ piece :=
  ⟨List.intercalate_splitOn '/', fun _ member => not_mem_of_mem_splitOn member⟩

/-- A string of whitespace alone. -/
def Blank (s : Str) : Prop :=
  ∀ c ∈ s, isWhitespace c = true

/-- The first piece of a path names the root group. -/
def StartsAtRoot (path : Str) : Prop :=
  ∃ first, (pieces path).head? = some first ∧ eqIgnoreAsciiCase (trim first) rootName = true

/-- The paths to be accepted. -/
structure Grammatical (path : Str) : Prop where
  nested : 2 ≤ (pieces path).length
  written : ∀ piece ∈ pieces path, ∃ c ∈ piece, isWhitespace c = false
  belowRoot : ¬StartsAtRoot path

/-- The reasons for which a path is rejected. -/
inductive Rejection
  | empty
  | emptySegment
  | singleSegment
  | root
  deriving DecidableEq, Repr

/-- The text of a reason in the error. -/
def Rejection.reason : Rejection → String
  | empty => "path is empty"
  | emptySegment => "path contains an empty segment"
  | singleSegment => "path has a single segment — a group is required"
  | root => "the root group must not be included in the path"

/-- The paths to which each reason applies, and none before it. -/
def Rejects (path : Str) : Rejection → Prop
  | .empty => Blank path
  | .emptySegment => ¬Blank path ∧ ∃ piece ∈ pieces path, Blank piece
  | .singleSegment => ¬Blank path ∧ (∀ piece ∈ pieces path, ¬Blank piece) ∧ '/' ∉ path
  | .root =>
      ¬Blank path ∧ (∀ piece ∈ pieces path, ¬Blank piece) ∧ '/' ∈ path ∧ StartsAtRoot path

/-- `slice::split_last`. -/
def splitLast (segments : List Str) : Option (Str × List Str) :=
  segments.getLast?.map fun last => (last, segments.dropLast)

variable (toLowercase : Str → Str)

/-- The result for a grammatical path: its trimmed and lowercased pieces. -/
def normalized (path : Str) : ParsedPath where
  groups := ((pieces path).dropLast.map trim).map toLowercase
  title := toLowercase (trim ((pieces path).getLast (pieces_ne_nil path)))

/-- `parse` with its indexing and its `expect` as they are written; a panic is
`none`. -/
def parseOrPanic (path : Str) : Option (Except KdbxError ParsedPath) :=
  let invalid (reason : String) : Except KdbxError ParsedPath :=
    .error (.invalidPath path reason)
  if (trim path).isEmpty then
    some (invalid "path is empty")
  else if (segments path).any List.isEmpty then
    some (invalid "path contains an empty segment")
  else if (segments path).length < 2 then
    some (invalid "path has a single segment — a group is required")
  else do
    let first ← (segments path)[0]?
    if eqIgnoreAsciiCase first rootName then
      some (invalid "the root group must not be included in the path")
    else do
      let (title, groups) ← splitLast (segments path)
      some (.ok { groups := groups.map toLowercase, title := toLowercase title })

/-! ## Pieces and segments -/

theorem not_blank_iff {s : Str} : ¬Blank s ↔ ∃ c ∈ s, isWhitespace c = false := by
  simp [Blank]

theorem trim_eq_nil_iff_blank (s : Str) : trim s = [] ↔ Blank s :=
  trim_eq_nil_iff isWhitespace s

theorem segments_eq_map (path : Str) : segments path = (pieces path).map trim :=
  rfl

/-- The first check of the parser finds blank paths. -/
theorem isEmpty_trim_iff (path : Str) : (trim path).isEmpty = true ↔ Blank path := by
  rw [List.isEmpty_iff, trim_eq_nil_iff_blank]

/-- The second check finds blank pieces. -/
theorem not_any_isEmpty_iff (path : Str) :
    ¬(segments path).any List.isEmpty = true ↔ ∀ piece ∈ pieces path, ¬Blank piece := by
  rw [segments_eq_map, List.any_map, List.any_eq_true]
  simp only [Function.comp_apply, isEmpty_trim_iff, not_exists, not_and]

/-- A path has one piece exactly when it has no separator. -/
theorem two_le_length_pieces_iff (path : Str) : 2 ≤ (pieces path).length ↔ '/' ∈ path := by
  constructor
  · intro several
    by_contra free
    rw [pieces, List.splitOn_eq_singleton free] at several
    simp at several
  · intro slash
    rcases List.append_of_mem slash with ⟨before, after, rfl⟩
    have front := List.length_pos_of_ne_nil (List.splitOn_ne_nil '/' before)
    have back := List.length_pos_of_ne_nil (List.splitOn_ne_nil '/' after)
    rw [pieces, List.splitOn_append_cons_self, List.length_append]
    omega

/-- A blank path has no separator, so it is its only piece. -/
theorem slash_not_mem_of_blank {path : Str} (blank : Blank path) : '/' ∉ path := by
  intro slash
  have space := blank '/' slash
  exact absurd space (by decide)

/-! ## Every path is accepted or rejected -/

/-- A path is grammatical, or one of the reasons applies to it. -/
theorem grammatical_or_rejects (path : Str) :
    Grammatical path ∨ ∃ rejection, Rejects path rejection := by
  by_cases blank : Blank path
  · exact Or.inr ⟨.empty, blank⟩
  · by_cases empty : ∃ piece ∈ pieces path, Blank piece
    · exact Or.inr ⟨.emptySegment, blank, empty⟩
    · have written : ∀ piece ∈ pieces path, ¬Blank piece := by
        intro piece member pieceBlank
        exact empty ⟨piece, member, pieceBlank⟩
      by_cases slash : '/' ∈ path
      · by_cases root : StartsAtRoot path
        · exact Or.inr ⟨.root, blank, written, slash, root⟩
        · left
          constructor
          · exact (two_le_length_pieces_iff path).mpr slash
          · exact fun piece member => not_blank_iff.mp (written piece member)
          · exact root
      · exact Or.inr ⟨.singleSegment, blank, written, slash⟩

/-- The reasons have different texts. -/
theorem Rejection.reason_injective : Function.Injective Rejection.reason := by
  intro rejection rejection' same
  cases rejection <;> cases rejection' <;> first | rfl | exact absurd same (by decide)

/-- The first piece decides whether a path starts at the root group. -/
theorem startsAtRoot_iff {path first : Str} {rest : List Str}
    (split : segments path = first :: rest) :
    StartsAtRoot path ↔ eqIgnoreAsciiCase first rootName = true := by
  rw [StartsAtRoot]
  cases list : pieces path with
  | nil => exact absurd list (pieces_ne_nil path)
  | cons piece others =>
      rw [segments_eq_map, list, List.map_cons] at split
      rw [← (List.cons.inj split).1]
      simp

/-! ## What the parser does with either kind -/

theorem parse_of_rejects {path : Str} {rejection : Rejection} (rejects : Rejects path rejection) :
    parse toLowercase path = .error (.invalidPath path rejection.reason) := by
  rw [parse]
  cases rejection with
  | empty =>
      rw [if_pos ((isEmpty_trim_iff path).mpr rejects)]
      rfl
  | emptySegment =>
      rcases rejects with ⟨written, piece, member, blank⟩
      have empty : (segments path).any List.isEmpty = true := by
        by_contra full
        exact (not_any_isEmpty_iff path).mp full piece member blank
      rw [if_neg (by rwa [isEmpty_trim_iff]), if_pos empty]
      rfl
  | singleSegment =>
      rcases rejects with ⟨written, full, free⟩
      rw [if_neg (by rwa [isEmpty_trim_iff]), if_neg ((not_any_isEmpty_iff path).mpr full),
        segments, List.splitOn_eq_singleton free]
      rfl
  | root =>
      rcases rejects with ⟨written, full, slash, root⟩
      rw [if_neg (by rwa [isEmpty_trim_iff]), if_neg ((not_any_isEmpty_iff path).mpr full)]
      have several : 2 ≤ (segments path).length := by
        rw [segments_eq_map, List.length_map]
        exact (two_le_length_pieces_iff path).mpr slash
      rcases split : segments path with _ | ⟨first, _ | ⟨second, rest⟩⟩
      · simp [split] at several
      · simp [split] at several
      · have isRoot := (startsAtRoot_iff split).mp root
        simp only [isRoot, if_true]
        rfl

/-- The pieces of a grammatical path are one or more groups and a title. -/
theorem Grammatical.segments_eq {path : Str} (grammatical : Grammatical path) :
    ∃ first groups title,
      segments path = first :: groups ++ [title] ∧
        (pieces path).dropLast.map trim = first :: groups ∧
        trim ((pieces path).getLast (pieces_ne_nil path)) = title := by
  have split := List.dropLast_append_getLast (pieces_ne_nil path)
  have nested := grammatical.nested
  cases groups : (pieces path).dropLast with
  | nil =>
      have none := congrArg List.length groups
      simp only [List.length_dropLast, List.length_nil] at none
      omega
  | cons first rest =>
      refine ⟨trim first, rest.map trim, _, ?_, rfl, rfl⟩
      calc
        segments path = (pieces path).map trim := segments_eq_map path
        _ = ((first :: rest) ++ [(pieces path).getLast (pieces_ne_nil path)]).map trim := by
            rw [← groups, split]
        _ = _ := List.map_append

theorem parse_of_grammatical {path : Str} (grammatical : Grammatical path) :
    parse toLowercase path = .ok (normalized toLowercase path) := by
  rcases grammatical.segments_eq with ⟨first, groups, title, split, groups_eq, title_eq⟩
  rw [parse_eq_ok_iff]
  refine ⟨first, groups, title, split, ?_, ?_, ?_⟩
  · intro segment member empty
    rcases List.mem_map.mp member with ⟨piece, pieceMem, rfl⟩
    have written := grammatical.written piece pieceMem
    rw [← not_blank_iff, ← trim_eq_nil_iff_blank] at written
    exact written empty
  · rw [← Bool.not_eq_true, ← startsAtRoot_iff split]
    exact grammatical.belowRoot
  · rw [normalized, groups_eq, title_eq]

/-- Neither the indexing nor the `expect` of the parser panics. -/
theorem parseOrPanic_eq_some (path : Str) :
    parseOrPanic toLowercase path = some (parse toLowercase path) := by
  rw [parseOrPanic, parse]
  by_cases blank : (trim path).isEmpty = true
  · rw [if_pos blank, if_pos blank]
  · rw [if_neg blank, if_neg blank]
    by_cases empty : (segments path).any List.isEmpty = true
    · rw [if_pos empty, if_pos empty]
    · rw [if_neg empty, if_neg empty]
      rcases split : segments path with _ | ⟨first, _ | ⟨second, rest⟩⟩
      · exact absurd split (segments_ne_nil path)
      · rfl
      · have long : ¬(first :: second :: rest).length < 2 := by simp
        rw [if_neg long]
        change (if eqIgnoreAsciiCase first rootName = true then _ else _) =
          some (if eqIgnoreAsciiCase first rootName = true then _ else _)
        by_cases isRoot : eqIgnoreAsciiCase first rootName = true
        · rw [if_pos isRoot, if_pos isRoot]
        · rw [if_neg isRoot, if_neg isRoot]
          rfl

/-! ## The parser decides the grammar -/

/-- The outcome of the parser on a path, for either kind of path. -/
structure DecidesGrammar (path : Str) : Prop where
  accepts : ∀ parsed, parse toLowercase path = .ok parsed ↔
    Grammatical path ∧ parsed = normalized toLowercase path
  nonempty : ∀ parsed, parse toLowercase path = .ok parsed →
    parsed.groups ≠ [] ∧ [] ∉ parsed.groups ∧ parsed.title ≠ []
  rejects : ∀ rejection, parse toLowercase path = .error (.invalidPath path rejection.reason) ↔
    Rejects path rejection
  carriesPath : ∀ error, parse toLowercase path = .error error →
    ∃ rejection, error = .invalidPath path (Rejection.reason rejection)
  noPanic : parseOrPanic toLowercase path = some (parse toLowercase path)

/-- The segments of an accepted path stay nonempty under a mapping that makes
no string empty. -/
theorem normalized_nonempty (keeps : ∀ s, toLowercase s = [] → s = []) {path : Str}
    (grammatical : Grammatical path) :
    (normalized toLowercase path).groups ≠ [] ∧ [] ∉ (normalized toLowercase path).groups ∧
      (normalized toLowercase path).title ≠ [] := by
  have trimmed : ∀ piece ∈ pieces path, toLowercase (trim piece) ≠ [] := by
    intro piece member empty
    have written := grammatical.written piece member
    rw [← not_blank_iff, ← trim_eq_nil_iff_blank] at written
    exact written (keeps _ empty)
  rcases grammatical.segments_eq with ⟨first, groups, title, _, groups_eq, _⟩
  refine ⟨?_, ?_, ?_⟩
  · simp [normalized, groups_eq]
  · intro empty
    rw [normalized, List.map_map] at empty
    rcases List.mem_map.mp empty with ⟨piece, member, piece_eq⟩
    exact trimmed piece (List.dropLast_subset _ member) piece_eq
  · exact trimmed _ (List.getLast_mem (pieces_ne_nil path))

theorem decidesGrammar_of_grammatical (keeps : ∀ s, toLowercase s = [] → s = []) {path : Str}
    (grammatical : Grammatical path) : DecidesGrammar toLowercase path := by
  have accepted := parse_of_grammatical toLowercase grammatical
  have unrejected : ∀ rejection, ¬Rejects path rejection := by
    intro rejection rejects
    rw [parse_of_rejects toLowercase rejects] at accepted
    contradiction
  constructor
  · intro parsed
    rw [accepted, Except.ok.injEq]
    exact ⟨fun same => ⟨grammatical, same.symm⟩, fun both => both.2.symm⟩
  · intro parsed result
    rw [accepted, Except.ok.injEq] at result
    subst parsed
    exact normalized_nonempty toLowercase keeps grammatical
  · intro rejection
    simp [accepted, unrejected]
  · intro error result
    rw [accepted] at result
    contradiction
  · exact parseOrPanic_eq_some toLowercase path

theorem decidesGrammar_of_rejects {path : Str} {rejection : Rejection}
    (rejects : Rejects path rejection) : DecidesGrammar toLowercase path := by
  have rejected := parse_of_rejects toLowercase rejects
  have ungrammatical : ¬Grammatical path := by
    intro grammatical
    rw [parse_of_grammatical toLowercase grammatical] at rejected
    contradiction
  constructor
  · intro parsed
    simp [rejected, ungrammatical]
  · intro parsed result
    rw [rejected] at result
    contradiction
  · intro rejection'
    constructor
    · intro result
      rw [rejected, Except.error.injEq, KdbxError.invalidPath.injEq] at result
      rw [← Rejection.reason_injective result.2]
      exact rejects
    · exact parse_of_rejects toLowercase
  · intro error result
    rw [rejected, Except.error.injEq] at result
    exact ⟨rejection, result.symm⟩
  · exact parseOrPanic_eq_some toLowercase path

/-- The four overlapping checks of the parser decide the grammar. -/
theorem parse_decidesGrammar (keeps : ∀ s, toLowercase s = [] → s = []) (path : Str) :
    DecidesGrammar toLowercase path := by
  rcases grammatical_or_rejects path with grammatical | ⟨rejection, rejects⟩
  · exact decidesGrammar_of_grammatical toLowercase keeps grammatical
  · exact decidesGrammar_of_rejects toLowercase rejects

theorem parse_decidesGrammar_ascii :
    DecidesGrammar toAsciiLowercase " ROOT /\t/x".toList :=
  parse_decidesGrammar toAsciiLowercase (fun _ empty => List.map_eq_nil_iff.mp empty) _

end KdbxCredentials.Paths
