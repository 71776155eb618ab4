import KdbxCredentials.Rust.Open

/-!
# The failures of opening a database in Rust

`open_with_password` passes through four stages: examining the file, checking
its kind, opening it and decoding it.  What it returns follows from how the
path resolves and, for a readable regular file, from what the decoder makes of
the contents.  Two failures of the first stage fall through `map_io_error` and
are reported as a corrupt database.
-/

namespace KdbxCredentials.Opening

open KdbxCredentials.Text
open KdbxCredentials.Posix
open KdbxCredentials.Rust

variable (kpOpen : Bytes → Str → Except DatabaseOpenError KpDatabase)
variable (w : World) (dbPath : Bytes) (password : Str)

/-! ## What can be the matter with a path -/

/-- The path does not resolve to a regular file: a name is missing, a node on
the way is not a directory, or the last node is of another kind. -/
def NotAFile : Prop :=
  w.Missing dbPath ∨ w.ThroughNonDirectory dbPath ∨
    ∃ node, w.ResolvesTo dbPath node ∧ node.isRegular = false

/-- Resolving or opening the file is refused. -/
def Denied : Prop :=
  w.Refused dbPath ∨ ∃ contents, w.ResolvesTo dbPath (.regular false contents)

/-- The path names a regular file with these contents, which may be read. -/
def Opened (contents : Bytes) : Prop :=
  w.ResolvesTo dbPath (.regular true contents)

/-- The decoder rejects the contents, and neither the key nor for a lack of
permission. -/
def rejectsContents : DatabaseOpenError → Bool
  | .key _ => false
  | .io .permissionDenied => false
  | .io _ => true
  | .databaseIntegrity _ => true
  | .unsupportedVersion => true

/-- Every failure is classified as the error taxonomy says. -/
structure ClassifiesFailures : Prop where
  databaseNotFound :
    openWithPassword kpOpen w dbPath password = .error (.databaseNotFound dbPath) ↔
      NotAFile w dbPath
  permissionDenied :
    openWithPassword kpOpen w dbPath password = .error .permissionDenied ↔
      Denied w dbPath ∨ ∃ contents, Opened w dbPath contents ∧
        kpOpen contents password = .error (.io .permissionDenied)
  authenticationFailed :
    openWithPassword kpOpen w dbPath password = .error .authenticationFailed ↔
      ∃ contents inner, Opened w dbPath contents ∧ kpOpen contents password = .error (.key inner)
  databaseCorrupt :
    ∀ source, openWithPassword kpOpen w dbPath password = .error (.databaseCorrupt source) →
      ∃ contents error, Opened w dbPath contents ∧ kpOpen contents password = .error error ∧
        rejectsContents error = true

variable {w dbPath}

/-! ## The classification -/

/-- A missing name is reported as a missing database. -/
theorem classifiesFailures_of_missing (noNul : nul ∉ dbPath) (missing : w.Missing dbPath) :
    ClassifiesFailures kpOpen w dbPath password := by
  have failed := (World.resolve_eq_enoent_iff w dbPath).mpr missing
  have result := openWithPassword_of_error kpOpen password noNul failed
  have absent := World.not_resolvesTo_of_error failed
  have searched : ¬w.Refused dbPath := by
    rw [← World.resolve_eq_eacces_iff, failed]
    simp
  constructor <;> simp [result, errorKind, mapIoError, NotAFile, Denied, Opened, absent, missing,
    searched]

/-- A refused search is reported as a lack of permission. -/
theorem classifiesFailures_of_refused (noNul : nul ∉ dbPath) (refused : w.Refused dbPath) :
    ClassifiesFailures kpOpen w dbPath password := by
  have failed := (World.resolve_eq_eacces_iff w dbPath).mpr refused
  have result := openWithPassword_of_error kpOpen password noNul failed
  have absent := World.not_resolvesTo_of_error failed
  have present : ¬w.Missing dbPath := by
    rw [← World.resolve_eq_enoent_iff, failed]
    simp
  have passable : ¬w.ThroughNonDirectory dbPath := by
    rw [← World.resolve_eq_enotdir_iff, failed]
    simp
  constructor <;> simp [result, errorKind, mapIoError, NotAFile, Denied, Opened, absent, refused,
    present, passable]

/-- A decoding failure is mapped to its class. -/
theorem mapOpenError_cases (error : DatabaseOpenError) :
    (∃ inner, error = .key inner ∧ mapOpenError error = .authenticationFailed) ∨
      (error = .io .permissionDenied ∧ mapOpenError error = .permissionDenied) ∨
      (rejectsContents error = true ∧ ∃ source, mapOpenError error = .databaseCorrupt source) := by
  cases error with
  | key inner => exact Or.inl ⟨inner, rfl, rfl⟩
  | io kind => cases kind <;> simp [mapOpenError, rejectsContents]
  | databaseIntegrity inner => exact Or.inr (Or.inr ⟨rfl, _, rfl⟩)
  | unsupportedVersion => exact Or.inr (Or.inr ⟨rfl, _, rfl⟩)

/-- For a readable file the failures are those of the decoder. -/
theorem classifiesFailures_of_readable (noNul : nul ∉ dbPath) {contents : Bytes}
    {ancestors : List FsNode}
    (found : w.resolve dbPath = .ok ⟨.regular true contents, ancestors⟩) :
    ClassifiesFailures kpOpen w dbPath password := by
  have result := openWithPassword_of_readable kpOpen password noNul found
  obtain ⟨present, passable, searched, resolves⟩ := World.of_resolve_eq_ok found
  have isFile : ¬NotAFile w dbPath := by
    simp [NotAFile, present, passable, resolves, FsNode.isRegular]
  have allowed : ¬Denied w dbPath := by simp [Denied, searched, resolves]
  have opened : ∀ contents', Opened w dbPath contents' ↔ contents = contents' := by
    simp [Opened, resolves]
  cases decoded : kpOpen contents password with
  | ok db =>
      rw [decoded] at result
      constructor <;> simp [result, Except.mapError, isFile, allowed, opened, decoded]
  | error error =>
      rw [decoded] at result
      rcases mapOpenError_cases error with
        ⟨inner, rfl, mapped⟩ | ⟨rfl, mapped⟩ | ⟨rejected, source, mapped⟩
      · constructor <;> simp [result, Except.mapError, mapped, isFile, allowed, opened, decoded]
      · constructor <;> simp [result, Except.mapError, mapped, isFile, allowed, opened, decoded]
      · have notRefused : error ≠ .io .permissionDenied := by
          rintro rfl
          cases rejected
        have notKey : ∀ inner, error ≠ .key inner := by
          rintro inner rfl
          cases rejected
        constructor <;> simp [result, Except.mapError, mapped, isFile, allowed, opened, decoded,
          notRefused, notKey, rejected]

/-- A path that names a node is classified by its kind and its contents. -/
theorem classifiesFailures_of_ok (noNul : nul ∉ dbPath) {loc : Location}
    (found : w.resolve dbPath = .ok loc) : ClassifiesFailures kpOpen w dbPath password := by
  obtain ⟨present, passable, searched, resolves⟩ := World.of_resolve_eq_ok found
  rcases loc with ⟨node, ancestors⟩
  by_cases irregular : node.isRegular = false
  · have result := openWithPassword_of_irregular kpOpen password noNul found irregular
    have other : ∀ readable contents, node ≠ .regular readable contents := by
      rintro readable contents rfl
      cases irregular
    constructor <;> simp [result, NotAFile, Denied, Opened, resolves, irregular, other, searched]
  · cases node with
    | directory searchable entries => exact absurd rfl irregular
    | special readable stream => exact absurd rfl irregular
    | regular readable contents =>
        cases readable with
        | true => exact classifiesFailures_of_readable kpOpen password noNul found
        | false =>
            have result := openWithPassword_of_unreadable kpOpen password noNul found
            constructor <;> simp [result, NotAFile, Denied, Opened, resolves, present, passable,
              FsNode.isRegular]

/-- The classification is right except for a path with a NUL byte and for one
that leads through a node that is not a directory. -/
theorem classifiesFailures_iff :
    ClassifiesFailures kpOpen w dbPath password ↔
      nul ∉ dbPath ∧ ¬w.ThroughNonDirectory dbPath := by
  constructor
  · intro classifies
    have noNul : nul ∉ dbPath := by
      intro hasNul
      have missing : w.Missing dbPath := Or.inl fun formed => formed.2 hasNul
      have result := classifies.databaseNotFound.mpr (Or.inl missing)
      rw [openWithPassword_of_nul kpOpen password hasNul] at result
      cases result
    constructor
    · exact noNul
    · intro through
      have failed := (World.resolve_eq_enotdir_iff w dbPath).mpr through
      have result := classifies.databaseNotFound.mpr (Or.inr (Or.inl through))
      rw [openWithPassword_of_error kpOpen password noNul failed] at result
      cases result
  · rintro ⟨noNul, passable⟩
    rcases World.resolve_cases w dbPath with
      ⟨_, missing⟩ | ⟨_, through⟩ | ⟨_, refused⟩ | ⟨loc, found, _⟩
    · exact classifiesFailures_of_missing kpOpen password noNul missing
    · contradiction
    · exact classifiesFailures_of_refused kpOpen password noNul refused
    · exact classifiesFailures_of_ok kpOpen password noNul found

/-! ## A database below a file -/

/-- A world whose root holds one readable file `db`, with no contents. -/
def oneFile : World where
  root := .directory true [(utf8 "db".toList, .regular true [])]
  cwd := []

/-- The path `/db/vault.kdbx` leads through the file `/db`; it names no file, and
it is reported as a corrupt one, whatever the decoder does. -/
theorem oneFile_not_classifiesFailures :
    (∀ kpOpen, openWithPassword kpOpen oneFile (utf8 "/db/vault.kdbx".toList) "pw".toList =
        .error (.databaseCorrupt (.io .notADirectory))) ∧
      ∀ kpOpen, ¬ClassifiesFailures kpOpen oneFile (utf8 "/db/vault.kdbx".toList) "pw".toList := by
  have failed : oneFile.resolve (utf8 "/db/vault.kdbx".toList) = .error .enotdir := by rfl
  have result : ∀ kpOpen, openWithPassword kpOpen oneFile (utf8 "/db/vault.kdbx".toList)
      "pw".toList = .error (.databaseCorrupt (.io .notADirectory)) :=
    fun kpOpen => openWithPassword_of_error kpOpen "pw".toList (by decide) failed
  constructor
  · exact result
  · intro kpOpen classifies
    have through := (World.resolve_eq_enotdir_iff oneFile _).mp failed
    have expected := classifies.databaseNotFound.mpr (Or.inr (Or.inl through))
    rw [result] at expected
    cases expected

end KdbxCredentials.Opening
