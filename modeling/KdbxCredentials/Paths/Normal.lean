import KdbxCredentials.Lookup.Lowercasing
import KdbxCredentials.Paths.Grammar

/-!
# Parsed paths as normal forms

`parse` reads nothing of a path but its trimmed segments, up to the case of
their ASCII letters.  A parsed path, joined again, has itself as segments, so it
parses to itself; and spellings that differ in ASCII case and in the whitespace
around segments have the same outcome.
-/

namespace KdbxCredentials.Paths

open KdbxCredentials.Text hiding trim
open KdbxCredentials.Rust
open KdbxCredentials.Lookup

/-- The parts of a path, joined with the separator. -/
def join (parts : List Str) : Str :=
  ['/'].intercalate parts

/-- `s'` is `s` with the case of some ASCII letters changed and whitespace put
around it. -/
def Respelled (s s' : Str) : Prop :=
  ∃ before text after, Blank before ∧ Blank after ∧
    toAsciiLowercase text = toAsciiLowercase s ∧ s' = before ++ text ++ after

/-- The same parsed path, or a rejection for the same reason. -/
inductive SameOutcome : Except KdbxError ParsedPath → Except KdbxError ParsedPath → Prop
  | ok (parsed : ParsedPath) : SameOutcome (.ok parsed) (.ok parsed)
  | invalid (path path' : Str) (reason : String) :
      SameOutcome (.error (.invalidPath path reason)) (.error (.invalidPath path' reason))

/-! ## Segments of joins and of respelled parts -/

theorem segments_join {parts : List Str} (nonempty : parts ≠ []) :
    segments (join parts) = parts.flatMap segments := by
  rw [segments, join, splitOn_intercalate_flatMap nonempty, List.map_flatMap]
  rfl

/-- Whitespace around a path belongs to its first and last pieces. -/
theorem segments_pad {before after : Str} (front : Blank before) (back : Blank after)
    (text : Str) : segments (before ++ text ++ after) = segments text := by
  have trailing : segments (text ++ after) = segments text := by
    obtain ⟨init, last, split, longer⟩ :=
      splitOn_append_right (slash_not_mem_of_blank back) text
    rw [segments, segments, split, longer, List.map_append, List.map_append]
    simp only [List.map_cons, trim, trim_append_right isWhitespace back]
  have leading : segments (before ++ (text ++ after)) = segments (text ++ after) := by
    rw [segments, segments, splitOn_append_of_not_mem _ (slash_not_mem_of_blank front)]
    cases (text ++ after).splitOn '/' with
    | nil => rfl
    | cons first rest =>
        simp only [List.modifyHead_cons, List.map_cons, trim, trim_append_left isWhitespace front]
  rw [List.append_assoc, leading, trailing]

/-- The case of ASCII letters plays no part in splitting and trimming. -/
theorem segments_toAsciiLowercase (s : Str) :
    segments (toAsciiLowercase s) = (segments s).map toAsciiLowercase := by
  have slash : ∀ c : Char, c.toLower = '/' ↔ c = '/' := toLower_eq_iff (by decide) (by decide)
  rw [segments, toAsciiLowercase, splitOn_map Char.toLower slash, segments, List.map_map,
    List.map_map]
  apply List.map_congr_left
  intro piece _
  exact trim_map isWhitespace isWhitespace_toLower piece

theorem Respelled.segments_eq {s s' : Str} (respelled : Respelled s s') :
    (segments s').map toAsciiLowercase = (segments s).map toAsciiLowercase := by
  rcases respelled with ⟨before, text, after, front, back, same, rfl⟩
  rw [segments_pad front back, ← segments_toAsciiLowercase, same, segments_toAsciiLowercase]

/-- Respelling the parts of a join respells its segments. -/
theorem segments_join_respelled {parts parts' : List Str}
    (respelled : List.Forall₂ Respelled parts parts') :
    (segments (join parts')).map toAsciiLowercase =
      (segments (join parts)).map toAsciiLowercase := by
  by_cases nonempty : parts = []
  · subst parts
    cases respelled
    rfl
  · have nonempty' : parts' ≠ [] := by
      rintro rfl
      cases respelled
      exact nonempty rfl
    rw [segments_join nonempty, segments_join nonempty', List.map_flatMap, List.map_flatMap]
    clear nonempty nonempty'
    induction respelled with
    | nil => rfl
    | cons head _ ih => rw [List.flatMap_cons, List.flatMap_cons, ih, head.segments_eq]

/-! ## The parser reads the segments alone -/

/-- A path is blank exactly when its only segment is empty. -/
theorem isEmpty_trim_iff_segments (path : Str) :
    (trim path).isEmpty = true ↔ segments path = [[]] := by
  rw [isEmpty_trim_iff]
  constructor
  · intro blank
    exact segments_of_trim_eq_nil ((trim_eq_nil_iff_blank path).mpr blank)
  · intro empty
    have single := congrArg List.length empty
    rw [segments_eq_map, List.length_map, List.length_singleton] at single
    have free : '/' ∉ path := by
      rw [← two_le_length_pieces_iff, single]
      decide
    rw [segments, List.splitOn_eq_singleton free, List.map_singleton] at empty
    exact (trim_eq_nil_iff_blank path).mp (List.cons.inj empty).1

/-- Emptiness of segments survives the change of ASCII case. -/
theorem any_isEmpty_map (segs : List Str) :
    (segs.map toAsciiLowercase).any List.isEmpty = segs.any List.isEmpty := by
  rw [List.any_map]
  congr 1
  funext segment
  cases segment <;> rfl

section SameSegments

variable {path path' : Str}

theorem isEmpty_trim_congr
    (same : (segments path').map toAsciiLowercase = (segments path).map toAsciiLowercase) :
    (trim path').isEmpty = (trim path).isEmpty := by
  have singly : ∀ segs : List Str, segs = [[]] ↔ segs.map toAsciiLowercase = [[]] := by
    intro segs
    simp [List.map_eq_singleton_iff, toAsciiLowercase]
  rw [Bool.eq_iff_iff, isEmpty_trim_iff_segments, isEmpty_trim_iff_segments, singly, same,
    ← singly]

theorem any_isEmpty_congr
    (same : (segments path').map toAsciiLowercase = (segments path).map toAsciiLowercase) :
    (segments path').any List.isEmpty = (segments path).any List.isEmpty := by
  rw [← any_isEmpty_map, same, any_isEmpty_map]

variable {toLowercase : Str → Str}

theorem map_toLowercase_congr
    (caseBlind : ∀ s, toLowercase (toAsciiLowercase s) = toLowercase s) {segs segs' : List Str}
    (same : segs'.map toAsciiLowercase = segs.map toAsciiLowercase) :
    segs'.map toLowercase = segs.map toLowercase := by
  have through : ∀ l : List Str,
      l.map toLowercase = (l.map toAsciiLowercase).map toLowercase := by
    intro l
    rw [List.map_map]
    exact List.map_congr_left fun s _ => (caseBlind s).symm
  rw [through, same, ← through]

/-- The groups and the title of lists with the same lowercase segments. -/
theorem parsed_congr {first first' second second' : Str} {rest rest' : List Str}
    (lowered : (first' :: second' :: rest').map toLowercase =
      (first :: second :: rest).map toLowercase) :
    (first' :: second' :: rest').dropLast.map toLowercase =
        (first :: second :: rest).dropLast.map toLowercase ∧
      toLowercase ((second' :: rest').getLast (List.cons_ne_nil second' rest')) =
        toLowercase ((second :: rest).getLast (List.cons_ne_nil second rest)) := by
  constructor
  · rw [List.map_dropLast, lowered, List.map_dropLast]
  · have tails := (List.cons.inj lowered).2
    have last := congrArg List.getLast? tails
    simp only [List.getLast?_map, Option.map_some, Option.some.injEq,
      List.getLast?_eq_some_getLast (List.cons_ne_nil _ _)] at last
    exact last

/-- Two paths with the same segments up to ASCII case have the same outcome,
under a lowercasing that ignores ASCII case. -/
theorem parse_sameOutcome
    (caseBlind : ∀ s, toLowercase (toAsciiLowercase s) = toLowercase s)
    (same : (segments path').map toAsciiLowercase = (segments path).map toAsciiLowercase) :
    SameOutcome (parse toLowercase path) (parse toLowercase path') := by
  have lowered := map_toLowercase_congr caseBlind same
  rw [parse, parse, isEmpty_trim_congr same, any_isEmpty_congr same]
  by_cases isBlank : (trim path).isEmpty = true
  · rw [if_pos isBlank, if_pos isBlank]
    exact SameOutcome.invalid path path' _
  · rw [if_neg isBlank, if_neg isBlank]
    by_cases isEmpty : (segments path).any List.isEmpty = true
    · rw [if_pos isEmpty, if_pos isEmpty]
      exact SameOutcome.invalid path path' _
    · rw [if_neg isEmpty, if_neg isEmpty]
      generalize segments path = segs at same lowered ⊢
      generalize segments path' = segs' at same lowered ⊢
      -- Lists with the same segments up to case have the same length.
      rcases segs with _ | ⟨first, _ | ⟨second, rest⟩⟩ <;>
        rcases segs' with _ | ⟨first', _ | ⟨second', rest'⟩⟩ <;>
        simp only [List.map_cons, List.map_nil, List.cons.injEq, reduceCtorEq, and_false] at same
      · exact SameOutcome.invalid path path' _
      · exact SameOutcome.invalid path path' _
      · have root : eqIgnoreAsciiCase first' rootName = eqIgnoreAsciiCase first rootName := by
          rw [eqIgnoreAsciiCase, same.1, eqIgnoreAsciiCase]
        rcases parsed_congr lowered with ⟨groups, title⟩
        simp only [root, groups, title]
        by_cases isRoot : eqIgnoreAsciiCase first rootName = true
        · rw [if_pos isRoot, if_pos isRoot]
          exact SameOutcome.invalid path path' _
        · rw [if_neg isRoot, if_neg isRoot]
          exact SameOutcome.ok _

end SameSegments

variable {toLowercase : Str → Str}

/-! ## Normal forms -/

/-- A parsed path, joined again, parses to itself. -/
theorem parse_join (laws : LowercaseLaws toLowercase) {path : Str} {parsed : ParsedPath}
    (accepted : parse toLowercase path = .ok parsed) :
    parse toLowercase (join (parsed.groups ++ [parsed.title])) = .ok parsed := by
  rcases (parse_eq_ok_iff toLowercase path parsed).mp accepted with
    ⟨first, groups, title, split, nonempty, notRoot, rfl⟩
  have printed : (first :: groups).map toLowercase ++ [toLowercase title] =
      (segments path).map toLowercase := by
    rw [split, List.map_append]
    rfl
  have plain : ∀ segment ∈ (segments path).map toLowercase,
      '/' ∉ segment ∧ Unpadded isWhitespace segment := by
    intro segment member
    rcases List.mem_map.mp member with ⟨original, originalMem, rfl⟩
    rw [laws.slash_iff, laws.unpadded_iff]
    exact segment_spec originalMem
  have again : segments (join ((segments path).map toLowercase)) =
      (segments path).map toLowercase :=
    segments_intercalate (by simp [segments_ne_nil]) plain
  rw [parse_eq_ok_iff]
  refine ⟨toLowercase first, groups.map toLowercase, toLowercase title, ?_, ?_, ?_, ?_⟩
  · rw [printed, again, ← printed]
    rfl
  · intro segment member empty
    rw [printed, again] at member
    rcases List.mem_map.mp member with ⟨original, originalMem, rfl⟩
    exact nonempty original originalMem ((laws.empty_iff original).mp empty)
  · exact eqIgnoreAsciiCase_root_eq_false laws notRoot (laws.idempotent first)
  · have idem : toLowercase ∘ toLowercase = toLowercase := funext laws.idempotent
    rw [ParsedPath.mk.injEq, ← List.map_cons, List.map_map, idem, laws.idempotent]
    exact ⟨rfl, rfl⟩

/-- Parsing is a normaliser: parsed paths are normal forms, and spellings of
the same parts have the same outcome. -/
theorem parse_normalizes (laws : LowercaseLaws toLowercase)
    (caseBlind : ∀ s t, toAsciiLowercase s = toAsciiLowercase t → toLowercase s = toLowercase t) :
    (∀ path parsed, parse toLowercase path = .ok parsed →
        parse toLowercase (join (parsed.groups ++ [parsed.title])) = .ok parsed) ∧
      ∀ parts parts', List.Forall₂ Respelled parts parts' →
        SameOutcome (parse toLowercase (join parts)) (parse toLowercase (join parts')) := by
  constructor
  · intro path parsed accepted
    exact parse_join laws accepted
  · intro parts parts' respelled
    apply parse_sameOutcome _ (segments_join_respelled respelled)
    exact fun s => caseBlind _ _ (toAsciiLowercase_idem s)

theorem parse_normalizes_greekTables :
    (∀ path parsed, parse greekTables.toLowercase path = .ok parsed →
        parse greekTables.toLowercase (join (parsed.groups ++ [parsed.title])) = .ok parsed) ∧
      ∀ parts parts', List.Forall₂ Respelled parts parts' →
        SameOutcome (parse greekTables.toLowercase (join parts))
          (parse greekTables.toLowercase (join parts')) :=
  parse_normalizes lowercaseFacts_greekTables.lowercaseLaws fun _ _ =>
    lowercaseFacts_greekTables.toLowercase_congr

end KdbxCredentials.Paths
