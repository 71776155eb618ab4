import KdbxCredentials.CSharp.Exception
import KdbxCredentials.Text.Trim

/-!
# The path parser of the C# library

`PathParser.Parse`, with the string methods it calls.  Ordinal comparison
ignoring case maps every character by the simple invariant uppercase mapping,
which stays a parameter.
-/

namespace KdbxCredentials.CSharp

open KdbxCredentials.Text

/-! ## String methods -/

/-- `char.IsWhiteSpace`: the separator categories `Zs`, `Zl` and `Zp`, and the
control characters from tab to carriage return and next line. -/
def isWhiteSpace (c : Char) : Bool :=
  let n := c.toNat
  let spaceSeparator :=
    n == 0x20 || n == 0xA0 || n == 0x1680 || (0x2000 ≤ n && n ≤ 0x200A) || n == 0x202F ||
      n == 0x205F || n == 0x3000
  let lineSeparator := n == 0x2028
  let paragraphSeparator := n == 0x2029
  spaceSeparator || lineSeparator || paragraphSeparator || (0x9 ≤ n && n ≤ 0xD) || n == 0x85

/-- `string.Trim`. -/
def trim (s : Str) : Str :=
  Text.trim isWhiteSpace s

/-- `string.IsNullOrWhiteSpace` on a string. -/
def isNullOrWhiteSpace (s : Str) : Bool :=
  s.all isWhiteSpace

variable (upper : Char → Char)

/-- `string.Equals` with `StringComparison.OrdinalIgnoreCase`. -/
def equalsOrdinalIgnoreCase (s t : Str) : Bool :=
  s.map upper == t.map upper

/-- The empty string equals no other one. -/
theorem equalsOrdinalIgnoreCase_nil {t : Str} (nonempty : t ≠ []) :
    equalsOrdinalIgnoreCase upper [] t = false := by
  cases t with
  | nil => contradiction
  | cons c rest => rfl

/-! ## The parser -/

/-- A validated, trimmed group/title split. -/
structure ParsedPath where
  groups : List Str
  title : Str
  deriving DecidableEq, Repr

/-- The trimmed pieces of a path. -/
def segments (path : Str) : List Str :=
  (path.splitOn '/').map trim

/-- Parse and validate `path`.  The last branch is `segments.Length < 2`. -/
def parse (path : Str) : Except KdbxException ParsedPath :=
  let invalid (reason : String) : Except KdbxException ParsedPath :=
    .error (.invalidPath path reason)
  if isNullOrWhiteSpace path then
    invalid "path is empty"
  else if (segments path).any List.isEmpty then
    invalid "path contains an empty segment"
  else
    match segments path with
    | first :: second :: rest =>
        if equalsOrdinalIgnoreCase upper first "root".toList then
          invalid "the root group must not be included in the path"
        else
          .ok
            { groups := (first :: second :: rest).dropLast
              title := (second :: rest).getLast (List.cons_ne_nil second rest) }
    | _ => invalid "path has a single segment — a group is required"

end KdbxCredentials.CSharp
