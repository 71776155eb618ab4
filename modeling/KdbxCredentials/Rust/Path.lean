import KdbxCredentials.Rust.Error
import KdbxCredentials.Text.AsciiCase
import KdbxCredentials.Text.Trim

/-!
# Parsing entry paths

The parser of `path.rs`.  `str::to_lowercase` is the full Unicode mapping of
the standard library and stays a parameter: no result here depends on more of
it than its own hypotheses say.  The other string operations are concrete.

The four checks of `parse` overlap, so its successful results are characterized
once, by `parse_eq_ok_iff`, in terms of the trimmed pieces alone.
-/

namespace KdbxCredentials.Rust

open KdbxCredentials.Text

/-! ## String operations -/

/-- `char::is_whitespace`, the Unicode `White_Space` property. -/
def isWhitespace (c : Char) : Bool :=
  let n := c.toNat
  (0x9 ≤ n && n ≤ 0xD) || n == 0x20 || n == 0x85 || n == 0xA0 || n == 0x1680 ||
    (0x2000 ≤ n && n ≤ 0x200A) || n == 0x2028 || n == 0x2029 || n == 0x202F ||
    n == 0x205F || n == 0x3000

/-- Whitespace is not a letter. -/
theorem not_letter_of_isWhitespace {c : Char} (space : isWhitespace c = true) :
    ¬(97 ≤ c.toNat ∧ c.toNat ≤ 122) ∧ ¬(65 ≤ c.toNat ∧ c.toNat ≤ 90) := by
  simp only [isWhitespace, Bool.or_eq_true, Bool.and_eq_true, decide_eq_true_eq,
    beq_iff_eq] at space
  omega

/-- The case of ASCII letters plays no part in being whitespace. -/
theorem isWhitespace_toLower (c : Char) : isWhitespace c.toLower = isWhitespace c := by
  simp only [isWhitespace, toNat_toLower]
  split_ifs with upper
  · rw [Bool.eq_iff_iff]
    simp
    omega
  · rfl

/-- `str::trim`. -/
def trim (s : Str) : Str :=
  Text.trim isWhitespace s

/-- `str::eq_ignore_ascii_case`. -/
def eqIgnoreAsciiCase (s t : Str) : Bool :=
  toAsciiLowercase s == toAsciiLowercase t

/-- The name of the implied root group. -/
def rootName : Str :=
  "root".toList

/-! ## The parser -/

/-- A validated, normalised lookup path. -/
structure ParsedPath where
  groups : List Str
  title : Str
  deriving DecidableEq, Repr

/-- The trimmed pieces of a path. -/
def segments (path : Str) : List Str :=
  (path.splitOn '/').map trim

variable (toLowercase : Str → Str)

/-- Parse and validate `path`.  The last branch is `segments.len() < 2`; in the
one before it the list has a last element, so `split_last` is always `Some`. -/
def parse (path : Str) : Except KdbxError ParsedPath :=
  let invalid (reason : String) : Except KdbxError ParsedPath :=
    .error (.invalidPath path reason)
  if (trim path).isEmpty then
    invalid "path is empty"
  else if (segments path).any List.isEmpty then
    invalid "path contains an empty segment"
  else
    match segments path with
    | first :: second :: rest =>
        if eqIgnoreAsciiCase first rootName then
          invalid "the root group must not be included in the path"
        else
          .ok
            { groups := (first :: second :: rest).dropLast.map toLowercase
              title := toLowercase ((second :: rest).getLast (List.cons_ne_nil second rest)) }
    | _ => invalid "path has a single segment — a group is required"

/-! ## The pieces of a path -/

theorem segments_ne_nil (path : Str) : segments path ≠ [] := by
  simp [segments]

/-- Every segment is trimmed and free of separators. -/
theorem segment_spec {path segment : Str} (member : segment ∈ segments path) :
    '/' ∉ segment ∧ Unpadded isWhitespace segment := by
  obtain ⟨piece, pieceMem, rfl⟩ := List.mem_map.mp member
  constructor
  · intro slash
    exact not_mem_of_mem_splitOn pieceMem (mem_of_mem_trim isWhitespace slash)
  · exact unpadded_trim isWhitespace piece

/-- Joining trimmed, separator-free segments and splitting again returns them. -/
theorem segments_intercalate {pieces : List Str} (nonempty : pieces ≠ [])
    (plain : ∀ piece ∈ pieces, '/' ∉ piece ∧ Unpadded isWhitespace piece) :
    segments (['/'].intercalate pieces) = pieces := by
  rw [segments, List.splitOn_intercalate '/' (fun piece member => (plain piece member).1) nonempty]
  calc
    pieces.map trim = pieces.map id :=
      List.map_congr_left fun piece member => (plain piece member).2.trim_eq
    _ = pieces := List.map_id pieces

/-- A blank path has one piece, and that piece is blank. -/
theorem segments_of_trim_eq_nil {path : Str} (blank : trim path = []) :
    segments path = [[]] := by
  have spaces := (trim_eq_nil_iff isWhitespace path).mp blank
  have free : '/' ∉ path := by
    intro slash
    have space := spaces '/' slash
    exact absurd space (by decide)
  rw [segments, List.splitOn_eq_singleton free, List.map_singleton, blank]

/-! ## Successful parses -/

/-- A path is accepted exactly when it has at least two segments, all of them
nonempty, and does not start at the root group; the result is then the
lowercased segments. -/
theorem parse_eq_ok_iff (path : Str) (parsed : ParsedPath) :
    parse toLowercase path = .ok parsed ↔
      ∃ first groups title,
        segments path = first :: groups ++ [title] ∧
          (∀ segment ∈ segments path, segment ≠ []) ∧
          eqIgnoreAsciiCase first rootName = false ∧
          parsed = ⟨(first :: groups).map toLowercase, toLowercase title⟩ := by
  unfold parse
  by_cases blank : trim path = []
  · simp [blank, segments_of_trim_eq_nil blank]
  · by_cases empty : (segments path).any List.isEmpty = true
    · rw [if_neg (by simpa using blank), if_pos empty]
      simp only [reduceCtorEq, false_iff]
      rintro ⟨first, groups, title, _, nonempty, _⟩
      obtain ⟨segment, member, isEmpty⟩ := List.any_eq_true.mp empty
      exact nonempty segment member (List.isEmpty_iff.mp isEmpty)
    · rw [if_neg (by simpa using blank), if_neg empty]
      have nonempty : ∀ segment ∈ segments path, segment ≠ [] := by
        intro segment member segment_eq
        apply empty
        exact List.any_eq_true.mpr ⟨segment, member, by simp [segment_eq]⟩
      cases split : segments path with
      | nil => exact absurd split (segments_ne_nil path)
      | cons first tail =>
          rw [split] at nonempty
          cases tail with
          | nil => simp
          | cons second rest =>
              by_cases isRoot : eqIgnoreAsciiCase first rootName = true
              · simp only [isRoot, if_true, reduceCtorEq, false_iff]
                rintro ⟨first', groups, title, list_eq, _, notRoot, _⟩
                have first_eq : first = first' := (List.cons.inj list_eq).1
                rw [← first_eq, isRoot] at notRoot
                contradiction
              · simp only [isRoot, if_false, Except.ok.injEq, Bool.false_eq_true]
                constructor
                · rintro rfl
                  have list_eq := List.dropLast_append_getLast (List.cons_ne_nil second rest)
                  exact ⟨first, (second :: rest).dropLast, _, by rw [List.cons_append, list_eq],
                    nonempty, by simpa using isRoot, rfl⟩
                · rintro ⟨first', groups, title, list_eq, _, _, rfl⟩
                  have tail_eq : second :: rest = groups ++ [title] := (List.cons.inj list_eq).2
                  have init_eq : (first :: second :: rest).dropLast = first' :: groups := by
                    rw [list_eq, List.dropLast_concat]
                  have last_eq :
                      (second :: rest).getLast (List.cons_ne_nil second rest) = title := by
                    simp only [tail_eq, List.getLast_concat]
                  rw [init_eq, last_eq]

end KdbxCredentials.Rust
