import KdbxCredentials.Text.Utf8

/-!
# Path strings and their components

A POSIX path is a byte string read as its pieces between slashes.  `components`
is the normalized reading of the Rust standard library: empty pieces and `.`
pieces vanish, except a leading `.`, and `..` is kept.  `join` is concatenation
with at most one slash added, so it acts on components as appending does.
-/

namespace KdbxCredentials.Posix

open KdbxCredentials.Text

/-- The byte `/`. -/
abbrev slash : UInt8 := 0x2f

/-- The byte `.`. -/
abbrev dot : UInt8 := 0x2e

/-- The byte that ends a path in a system call. -/
abbrev nul : UInt8 := 0

/-- The pieces of a path between its slashes, empty ones included. -/
def pieces (path : Bytes) : List Bytes :=
  path.splitOn slash

/-- A path that a system call can take: nonempty and free of NUL. -/
def WellFormed (path : Bytes) : Prop :=
  path ≠ [] ∧ nul ∉ path

instance (path : Bytes) : Decidable (WellFormed path) :=
  inferInstanceAs (Decidable (_ ∧ _))

/-- A path that starts at the root. -/
def isAbsolute (path : Bytes) : Bool :=
  path.head? == some slash

/-! ## Components -/

/-- `std::path::Component` on Unix. -/
inductive Component
  | rootDir
  | curDir
  | parentDir
  | normal (name : Bytes)
  deriving DecidableEq, Repr

/-- The component of a piece that does not lead its path. -/
def pieceComponent (piece : Bytes) : Option Component :=
  if piece = [] ∨ piece = [dot] then none
  else if piece = [dot, dot] then some .parentDir
  else some (.normal piece)

/-- The components after the root or a leading `.`. -/
def innerComponents (path : Bytes) : List Component :=
  (pieces path).filterMap pieceComponent

/-- `Path::components`. -/
def components (path : Bytes) : List Component :=
  if isAbsolute path then
    .rootDir :: innerComponents path
  else if (pieces path).head? = some [dot] then
    .curDir :: innerComponents path
  else
    innerComponents path

/-- `Path::join`. -/
def join (base path : Bytes) : Bytes :=
  if isAbsolute path then path
  else if base = [] ∨ base.getLast? = some slash then base ++ path
  else base ++ slash :: path

/-! ## Plain names -/

/-- A piece that is the name of a directory entry. -/
structure PlainName (name : Bytes) : Prop where
  nonempty : name ≠ []
  noSlash : slash ∉ name
  not_dot : name ≠ [dot]
  not_dotDot : name ≠ [dot, dot]

theorem pieceComponent_eq_none_iff (piece : Bytes) :
    pieceComponent piece = none ↔ piece = [] ∨ piece = [dot] := by
  rw [pieceComponent]
  split_ifs <;> simp_all

theorem pieceComponent_eq_normal_iff {piece name : Bytes} (noSlash : slash ∉ piece) :
    pieceComponent piece = some (.normal name) ↔ PlainName piece ∧ piece = name := by
  rw [pieceComponent]
  constructor
  · intro normal
    split_ifs at normal with hidden parent
    · cases normal
    · rcases not_or.mp hidden with ⟨nonempty, not_dot⟩
      cases normal
      exact ⟨⟨nonempty, noSlash, not_dot, parent⟩, rfl⟩
  · rintro ⟨plain, rfl⟩
    rw [if_neg (not_or.mpr ⟨plain.nonempty, plain.not_dot⟩), if_neg plain.not_dotDot]

theorem noSlash_of_mem_pieces {path piece : Bytes} (member : piece ∈ pieces path) :
    slash ∉ piece :=
  not_mem_of_mem_splitOn member

theorem pieces_ne_nil (path : Bytes) : pieces path ≠ [] :=
  List.splitOn_ne_nil slash path

/-- The first piece of a nonempty path is empty exactly when the path is
absolute. -/
theorem head_pieces_eq_nil_iff {path first : Bytes} {rest : List Bytes}
    (split : pieces path = first :: rest) :
    first = [] ↔ path = [] ∨ isAbsolute path = true := by
  cases path with
  | nil =>
      have first_eq : [] = first := (List.cons.inj split).1
      simp [← first_eq]
  | cons c path =>
      rw [pieces, List.splitOn_cons_eq_if_modifyHead] at split
      by_cases separator : c = slash
      · rw [if_pos (by simp [separator])] at split
        have first_eq : [] = first := (List.cons.inj split).1
        simp [← first_eq, isAbsolute, separator]
      · rw [if_neg (by simpa using separator)] at split
        obtain ⟨head, tail, split'⟩ := List.exists_cons_of_ne_nil (pieces_ne_nil path)
        rw [pieces] at split'
        rw [split', List.modifyHead_cons] at split
        have first_eq : c :: head = first := (List.cons.inj split).1
        simp [← first_eq, isAbsolute, separator]

/-- A path has a single normal component exactly when a plain name leads it and
only empty and `.` pieces follow. -/
theorem components_eq_singleton_iff (path name : Bytes) :
    components path = [.normal name] ↔
      PlainName name ∧ ∃ rest, pieces path = name :: rest ∧
        ∀ piece ∈ rest, piece = [] ∨ piece = [dot] := by
  obtain ⟨first, rest, split⟩ := List.exists_cons_of_ne_nil (pieces_ne_nil path)
  have noSlash : slash ∉ first :=
    noSlash_of_mem_pieces (by rw [split]; exact List.mem_cons_self)
  have blank : rest.filterMap pieceComponent = [] ↔ ∀ piece ∈ rest, piece = [] ∨ piece = [dot] := by
    rw [List.filterMap_eq_nil_iff]
    simp only [pieceComponent_eq_none_iff]
  have inner : innerComponents path = (first :: rest).filterMap pieceComponent := by
    rw [innerComponents, split]
  constructor
  · intro single
    rw [components] at single
    split_ifs at single with absolute current
    · cases (List.cons.inj single).1
    · cases (List.cons.inj single).1
    · rw [split] at current
      have not_dot : first ≠ [dot] := fun first_eq => current (congrArg some first_eq)
      have nonempty : first ≠ [] := by
        intro first_eq
        rcases (head_pieces_eq_nil_iff split).mp first_eq with empty | absolute'
        · rw [empty] at single
          cases single
        · exact absolute absolute'
      rw [inner] at single
      cases image : pieceComponent first with
      | none =>
          rcases (pieceComponent_eq_none_iff first).mp image with first_eq | first_eq <;>
            contradiction
      | some component =>
          rw [List.filterMap_cons_some image] at single
          obtain ⟨component_eq, restEmpty⟩ := List.cons.inj single
          rw [component_eq] at image
          obtain ⟨plain, rfl⟩ := (pieceComponent_eq_normal_iff noSlash).mp image
          exact ⟨plain, rest, split, blank.mp restEmpty⟩
  · rintro ⟨plain, rest', split', dots⟩
    rw [split] at split'
    cases split'
    have relative : ¬isAbsolute path = true := fun absolute =>
      plain.nonempty ((head_pieces_eq_nil_iff split).mpr (Or.inr absolute))
    have current : ¬(pieces path).head? = some [dot] := by
      rw [split]
      exact fun head_eq => plain.not_dot (Option.some.inj head_eq)
    rw [components, if_neg relative, if_neg current, inner,
      List.filterMap_cons_some ((pieceComponent_eq_normal_iff noSlash).mpr ⟨plain, rfl⟩),
      blank.mpr dots]

/-! ## Joining -/

theorem pieces_append_slash (base path : Bytes) :
    pieces (base ++ slash :: path) = pieces base ++ pieces path :=
  List.splitOn_append_cons_self base path

theorem isAbsolute_append_slash (base path : Bytes) :
    isAbsolute (base ++ slash :: path) = (isAbsolute base || base.isEmpty) := by
  cases base <;> simp [isAbsolute]

/-- What follows a slash adds its inner components. -/
theorem components_append_slash (base path : Bytes) :
    components (base ++ slash :: path) =
      components (base ++ [slash]) ++ innerComponents path := by
  have inner : innerComponents (base ++ slash :: path) =
      innerComponents (base ++ [slash]) ++ innerComponents path := by
    simp only [innerComponents, pieces_append_slash, List.filterMap_append]
    have blank : (pieces []).filterMap pieceComponent = [] := rfl
    rw [blank, List.append_nil]
  have head : ∀ tail, (pieces (base ++ slash :: tail)).head? = (pieces base).head? := by
    intro tail
    rw [pieces_append_slash, List.head?_append_of_ne_nil _ (pieces_ne_nil base)]
  rw [components, components, isAbsolute_append_slash, isAbsolute_append_slash, head, head, inner]
  split_ifs <;> rfl

/-- A slash after a nonempty path changes no component. -/
theorem components_append_single_slash {base : Bytes} (nonempty : base ≠ []) :
    components (base ++ [slash]) = components base := by
  have inner : innerComponents (base ++ [slash]) = innerComponents base := by
    simp only [innerComponents, pieces_append_slash, List.filterMap_append]
    exact List.append_nil _
  have head : (pieces (base ++ [slash])).head? = (pieces base).head? := by
    rw [pieces_append_slash, List.head?_append_of_ne_nil _ (pieces_ne_nil base)]
  have absolute : isAbsolute (base ++ [slash]) = isAbsolute base := by
    rw [isAbsolute_append_slash, List.isEmpty_eq_false_iff.mpr nonempty, Bool.or_false]
  rw [components, components, inner, head, absolute]

/-- Joining a relative path that does not start with `.` appends its
components, whatever the shape of the base. -/
theorem components_join {base path : Bytes} (relative : isAbsolute path = false)
    (current : (pieces path).head? ≠ some [dot]) :
    components (join base path) = components base ++ components path := by
  have path_eq : components path = innerComponents path := by
    rw [components, if_neg (by simp [relative]), if_neg current]
  rw [join, if_neg (by simp [relative]), path_eq]
  by_cases empty : base = []
  · rw [if_pos (Or.inl empty), empty, List.nil_append, path_eq]
    rfl
  · by_cases ends : base.getLast? = some slash
    · rw [if_pos (Or.inr ends)]
      obtain ⟨front, rfl⟩ := List.getLast?_eq_some_iff.mp ends
      rw [List.append_assoc, List.singleton_append, components_append_slash]
    · rw [if_neg (not_or.mpr ⟨empty, ends⟩), components_append_slash,
        components_append_single_slash empty]

/-- A path with a single normal component is relative and does not start with
`.`. -/
theorem relative_of_components_eq_singleton {path name : Bytes}
    (single : components path = [.normal name]) :
    isAbsolute path = false ∧ (pieces path).head? ≠ some [dot] := by
  rw [components] at single
  split_ifs at single with absolute current
  · cases (List.cons.inj single).1
  · cases (List.cons.inj single).1
  · exact ⟨by simpa using absolute, current⟩

theorem isAbsolute_append {base : Bytes} (absolute : isAbsolute base = true) (tail : Bytes) :
    isAbsolute (base ++ tail) = true := by
  cases base with
  | nil => cases absolute
  | cons byte base => exact absolute

/-- Joining a relative path to an absolute one gives an absolute path. -/
theorem isAbsolute_join {base path : Bytes} (absolute : isAbsolute base = true)
    (relative : isAbsolute path = false) : isAbsolute (join base path) = true := by
  rw [join, if_neg (by simp [relative])]
  split_ifs <;> exact isAbsolute_append absolute _

/-- Joining a relative path to the empty one leaves it as it is. -/
theorem join_nil {path : Bytes} (relative : isAbsolute path = false) : join [] path = path := by
  rw [join, if_neg (by simp [relative]), if_pos (Or.inl rfl), List.nil_append]

/-- Apart from slashes, a joined path has the bytes of its two parts. -/
theorem mem_join_iff {base path : Bytes} {byte : UInt8} (other : byte ≠ slash)
    (relative : isAbsolute path = false) : byte ∈ join base path ↔ byte ∈ base ∨ byte ∈ path := by
  rw [join, if_neg (by simp [relative])]
  split_ifs
  · exact List.mem_append
  · rw [List.mem_append, List.mem_cons, or_iff_right other]

end KdbxCredentials.Posix
