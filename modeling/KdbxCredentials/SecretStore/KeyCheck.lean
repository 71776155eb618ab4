import KdbxCredentials.Rust.SecretStore

/-!
# The keys that the Rust store accepts

`is_safe_credential_id` reads the key through `Path::components`, which drops
trailing slashes and `.` pieces.  It therefore accepts the plain names and, for
each of them, the same name followed by a slash and nothing but empty and `.`
pieces.  Either way the joined path has the components of the directory and one
name more.
-/

namespace KdbxCredentials.SecretStore

open KdbxCredentials.Text
open KdbxCredentials.Posix
open KdbxCredentials.Rust

/-- The NUL character. -/
abbrev nulChar : Char :=
  Char.ofNat 0

/-- A key that is the name of a directory entry. -/
structure PlainKey (key : Str) : Prop where
  nonempty : key ≠ []
  noSlash : '/' ∉ key
  noNul : nulChar ∉ key
  not_dot : key ≠ ".".toList
  not_dotDot : key ≠ "..".toList

/-- The pieces of a key are a plain name and then only empty and `.` pieces. -/
structure NamePieces (key name : Str) (rest : List Str) : Prop where
  split : key.splitOn '/' = name :: rest
  plain : PlainKey name
  blank : ∀ piece ∈ rest, piece = [] ∨ piece = ".".toList

/-- A plain name followed by a slash and only empty and `.` pieces. -/
def TrailingSlash (key : Str) : Prop :=
  ∃ name rest, NamePieces key name rest ∧ rest ≠ []

/-! ## Special characters and their bytes -/

theorem slash_mem_utf8_iff (s : Str) : slash ∈ utf8 s ↔ '/' ∈ s :=
  mem_utf8_iff (by decide) rfl s

theorem nul_mem_utf8_iff (s : Str) : nul ∈ utf8 s ↔ nulChar ∈ s :=
  mem_utf8_iff (by decide) rfl s

theorem utf8_eq_dot_iff (s : Str) : utf8 s = [dot] ↔ s = ".".toList :=
  utf8_injective.eq_iff' rfl

theorem utf8_eq_dotDot_iff (s : Str) : utf8 s = [dot, dot] ↔ s = "..".toList :=
  utf8_injective.eq_iff' rfl

/-- An empty piece or `.` is one on either side of the encoding. -/
theorem utf8_blank_iff (s : Str) : utf8 s = [] ∨ utf8 s = [dot] ↔ s = [] ∨ s = ".".toList := by
  rw [utf8_eq_nil_iff, utf8_eq_dot_iff]

theorem pieces_utf8 (key : Str) : pieces (utf8 key) = (key.splitOn '/').map utf8 :=
  splitOn_utf8 (by decide) rfl key

theorem plainName_utf8_iff {name : Str} (noNul : nulChar ∉ name) :
    PlainName (utf8 name) ↔ PlainKey name := by
  constructor
  · intro plain
    exact
      { nonempty := mt (utf8_eq_nil_iff name).mpr plain.nonempty
        noSlash := mt (slash_mem_utf8_iff name).mpr plain.noSlash
        noNul := noNul
        not_dot := mt (utf8_eq_dot_iff name).mpr plain.not_dot
        not_dotDot := mt (utf8_eq_dotDot_iff name).mpr plain.not_dotDot }
  · intro plain
    exact
      { nonempty := mt (utf8_eq_nil_iff name).mp plain.nonempty
        noSlash := mt (slash_mem_utf8_iff name).mp plain.noSlash
        not_dot := mt (utf8_eq_dot_iff name).mp plain.not_dot
        not_dotDot := mt (utf8_eq_dotDot_iff name).mp plain.not_dotDot }

/-! ## The accepted keys -/

theorem nulChar_ne_slash : nulChar ≠ '/' := by
  decide

/-- A key of one plain name has no NUL in any piece. -/
theorem NamePieces.noNul {key name : Str} {rest : List Str} (named : NamePieces key name rest) :
    nulChar ∉ key := by
  rcases named with ⟨split, plain, dots⟩
  intro member
  obtain ⟨piece, pieceMem, inPiece⟩ := (mem_iff_of_ne nulChar_ne_slash key).mp member
  rw [split] at pieceMem
  rcases List.mem_cons.mp pieceMem with rfl | restMem
  · exact plain.noNul inPiece
  · rcases dots piece restMem with rfl | rfl
    · cases inPiece
    · exact absurd inPiece (by decide)

/-- Encoded, the pieces after the name are still empty or `.`. -/
theorem NamePieces.blank_utf8 {key name : Str} {rest : List Str}
    (named : NamePieces key name rest) :
    ∀ bytes ∈ rest.map utf8, bytes = [] ∨ bytes = [dot] := by
  intro bytes member
  obtain ⟨piece, pieceMem, rfl⟩ := List.mem_map.mp member
  exact (utf8_blank_iff piece).mpr (named.blank piece pieceMem)

/-- The components of a key are one normal component exactly when its pieces are
a plain name and nothing else of note. -/
theorem components_utf8_iff {key : Str} (noNul : nulChar ∉ key) (bytes : Bytes) :
    components (utf8 key) = [.normal bytes] ↔
      ∃ name rest, NamePieces key name rest ∧ bytes = utf8 name := by
  have pieceFree : ∀ piece ∈ key.splitOn '/', nulChar ∉ piece := by
    intro piece member inPiece
    exact noNul ((mem_iff_of_ne nulChar_ne_slash key).mpr ⟨piece, member, inPiece⟩)
  rw [components_eq_singleton_iff, pieces_utf8]
  constructor
  · rintro ⟨plain, restBytes, split, dots⟩
    obtain ⟨name, rest, split', rfl, rfl⟩ := List.map_eq_cons_iff.mp split
    have nameFree : nulChar ∉ name :=
      pieceFree name (by rw [split']; exact List.mem_cons_self)
    have blank : ∀ piece ∈ rest, piece = [] ∨ piece = ".".toList := by
      intro piece member
      exact (utf8_blank_iff piece).mp (dots (utf8 piece) (List.mem_map_of_mem member))
    exact ⟨name, rest, ⟨split', (plainName_utf8_iff nameFree).mp plain, blank⟩, rfl⟩
  · rintro ⟨name, rest, named, rfl⟩
    have split : (key.splitOn '/').map utf8 = utf8 name :: rest.map utf8 := by
      rw [named.split, List.map_cons]
    exact ⟨(plainName_utf8_iff named.plain.noNul).mpr named.plain, rest.map utf8, split,
      named.blank_utf8⟩

/-- The key is a relative path that starts with its name. -/
theorem NamePieces.utf8_key {key name : Str} {rest : List Str} (named : NamePieces key name rest) :
    isAbsolute (utf8 key) = false ∧ utf8 key ≠ [] ∧
      pieces (utf8 key) = utf8 name :: rest.map utf8 := by
  have split : pieces (utf8 key) = utf8 name :: rest.map utf8 := by
    rw [pieces_utf8, named.split, List.map_cons]
  have nonempty : utf8 name ≠ [] := mt (utf8_eq_nil_iff name).mp named.plain.nonempty
  have starts := mt (head_pieces_eq_nil_iff split).mpr nonempty
  obtain ⟨keyNonempty, relative⟩ := not_or.mp starts
  exact ⟨by simpa using relative, keyNonempty, split⟩

/-- The accepted keys, by their pieces. -/
theorem isSafeCredentialId_iff (key : Str) :
    isSafeCredentialId key = true ↔ ∃ name rest, NamePieces key name rest := by
  rw [isSafeCredentialId, Bool.and_eq_true]
  constructor
  · rintro ⟨single, noNul⟩
    have keyFree : nulChar ∉ key := by simpa using noNul
    split at single
    · next bytes single_eq =>
      obtain ⟨name, rest, named, _⟩ := (components_utf8_iff keyFree bytes).mp single_eq
      exact ⟨name, rest, named⟩
    · cases single
  · rintro ⟨name, rest, named⟩
    have single := (components_utf8_iff named.noNul (utf8 name)).mpr ⟨name, rest, named, rfl⟩
    have keyFree := named.noNul
    rw [single]
    simpa using keyFree

/-! ## The path that is opened -/

/-- The path of an accepted key has one component more than the directory. -/
theorem components_join_key {key : Str} (dir : Bytes)
    (accepted : isSafeCredentialId key = true) :
    ∃ name, PlainKey name ∧ isAbsolute (utf8 key) = false ∧
      components (join dir (utf8 key)) = components dir ++ [.normal (utf8 name)] := by
  obtain ⟨name, rest, named⟩ := (isSafeCredentialId_iff key).mp accepted
  have single := (components_utf8_iff named.noNul (utf8 name)).mpr ⟨name, rest, named, rfl⟩
  obtain ⟨relative, current⟩ := relative_of_components_eq_singleton single
  have joined : components (join dir (utf8 key)) = components dir ++ [.normal (utf8 name)] := by
    rw [components_join relative current, single]
  exact ⟨name, named.plain, relative, joined⟩

theorem isSafeCredentialId_noNul {key : Str} (accepted : isSafeCredentialId key = true) :
    nul ∉ utf8 key := by
  obtain ⟨name, rest, named⟩ := (isSafeCredentialId_iff key).mp accepted
  exact mt (nul_mem_utf8_iff key).mp named.noNul

/-- An accepted key opens the joined path, and nothing else. -/
theorem opened_readFromDir {key : Str} (dir : Bytes) (accepted : isSafeCredentialId key = true)
    (fs : Bytes → Except Errno Bytes) :
    (readFromDir dir key).opened fs = if nul ∈ dir then [] else [join dir (utf8 key)] := by
  obtain ⟨_, _, relative, _⟩ := components_join_key dir accepted
  have nul_iff : nul ∈ join dir (utf8 key) ↔ nul ∈ dir := by
    rw [mem_join_iff (by decide) relative, or_iff_left (isSafeCredentialId_noNul accepted)]
  rw [readFromDir_of_accepted dir accepted, FileProgram.opened_map, readToString]
  by_cases inDir : nul ∈ dir
  · rw [if_pos (nul_iff.mpr inDir), if_pos inDir]
    rfl
  · rw [if_neg (mt nul_iff.mp inDir), if_neg inDir]
    rfl

/-- The file opened for an accepted key is a direct child of the directory. -/
theorem readFromDir_opens_child (dir : Bytes) (key : Str)
    (accepted : isSafeCredentialId key = true) :
    ∃ name, PlainName name ∧ nul ∉ name ∧
      components (join dir (utf8 key)) = components dir ++ [.normal name] ∧
      ∀ fs, (readFromDir dir key).opened fs =
        if nul ∈ dir then [] else [join dir (utf8 key)] := by
  obtain ⟨name, plain, _, joined⟩ := components_join_key dir accepted
  have plainBytes := (plainName_utf8_iff plain.noNul).mpr plain
  have noNul := mt (nul_mem_utf8_iff name).mp plain.noNul
  exact ⟨utf8 name, plainBytes, noNul, joined, opened_readFromDir dir accepted⟩

theorem readFromDir_opens_child_kdbxMaster :
    ∃ name, PlainName name ∧ nul ∉ name ∧
      components (join (utf8 "run/creds/.".toList) (utf8 "kdbx-master".toList)) =
        components (utf8 "run/creds/.".toList) ++ [.normal name] ∧
      ∀ fs, (readFromDir (utf8 "run/creds/.".toList) "kdbx-master".toList).opened fs =
        if nul ∈ utf8 "run/creds/.".toList then []
        else [join (utf8 "run/creds/.".toList) (utf8 "kdbx-master".toList)] :=
  readFromDir_opens_child (utf8 "run/creds/.".toList) "kdbx-master".toList (by decide)

/-! ## The keys that should be accepted -/

/-- The check accepts the key exactly when it is a plain name, and no other key
touches the file system. -/
def AcceptsExactlyPlain (key : Str) : Prop :=
  (isSafeCredentialId key = true ↔ PlainKey key) ∧
    (¬PlainKey key → ∀ dir, readFromDir dir key = .done (.error (.secretNotFound key)))

/-- A plain name is its own only piece. -/
theorem PlainKey.namePieces {key : Str} (plain : PlainKey key) : NamePieces key key [] :=
  ⟨List.splitOn_eq_singleton plain.noSlash, plain, fun _ member => by cases member⟩

/-- A key with a trailing slash is not a plain name. -/
theorem TrailingSlash.not_plain {key : Str} (trailing : TrailingSlash key) : ¬PlainKey key := by
  rintro plain
  rcases trailing with ⟨name, rest, ⟨split, _, _⟩, nonempty⟩
  rw [plain.namePieces.split] at split
  exact nonempty (List.cons.inj split).2.symm

theorem isSafeCredentialId_iff_plain_or_trailing (key : Str) :
    isSafeCredentialId key = true ↔ PlainKey key ∨ TrailingSlash key := by
  rw [isSafeCredentialId_iff]
  constructor
  · rintro ⟨name, rest, named⟩
    cases rest with
    | nil =>
        have joined : ['/'].intercalate (key.splitOn '/') = key := List.intercalate_splitOn '/'
        rw [named.split] at joined
        have name_eq : name = key := by simpa [List.intercalate] using joined
        exact Or.inl (name_eq ▸ named.plain)
    | cons piece rest => exact Or.inr ⟨name, piece :: rest, named, List.cons_ne_nil piece rest⟩
  · rintro (plain | ⟨name, rest, named, _⟩)
    · exact ⟨key, [], plain.namePieces⟩
    · exact ⟨name, rest, named⟩

/-- The check is right about every key but the ones with a trailing slash. -/
theorem acceptsExactlyPlain_iff (key : Str) : AcceptsExactlyPlain key ↔ ¬TrailingSlash key := by
  constructor
  · rintro ⟨accepts, _⟩ trailing
    apply trailing.not_plain
    exact accepts.mp ((isSafeCredentialId_iff_plain_or_trailing key).mpr (Or.inr trailing))
  · intro clean
    have accepts : isSafeCredentialId key = true ↔ PlainKey key := by
      rw [isSafeCredentialId_iff_plain_or_trailing, or_iff_left clean]
    constructor
    · exact accepts
    · intro notPlain dir
      exact readFromDir_of_rejected dir (by simpa using mt accepts.mp notPlain)

theorem aSlash_not_acceptsExactlyPlain : ¬AcceptsExactlyPlain "a/".toList := by
  rintro ⟨accepts, _⟩
  have plain : PlainKey "a/".toList := accepts.mp (by decide)
  exact plain.noSlash (by decide)

end KdbxCredentials.SecretStore
