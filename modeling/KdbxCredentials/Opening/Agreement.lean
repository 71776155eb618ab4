import KdbxCredentials.CSharp.OpenCalls
import KdbxCredentials.Lookup.Agreement
import KdbxCredentials.Opening.Classification
import KdbxCredentials.Rust.OpenCalls
import KdbxCredentials.SecretStore.Agreement

/-!
# The two ways of opening a database agree

Both libraries report failures of the same eight kinds.  On a path that .NET resolves
as the system does, and a file that both readers take alike, they open the same
database or fail alike, apart from the paths on which the Rust check of the metadata
and the C# existence test part: a path with a NUL byte, a path through a file or
through a directory that may not be searched, and a path to a special node.
-/

namespace KdbxCredentials

/-! ## Kinds of failure -/

/-- The kinds of failure that both libraries report. -/
inductive Kind
  | secretNotFound
  | databaseNotFound
  | databaseCorrupt
  | authenticationFailed
  | permissionDenied
  | invalidPath
  | entryNotFound
  | ambiguousEntry
  deriving DecidableEq, Repr

def Rust.KdbxError.kind : Rust.KdbxError → Kind
  | .secretNotFound _ => .secretNotFound
  | .databaseNotFound _ => .databaseNotFound
  | .databaseCorrupt _ => .databaseCorrupt
  | .authenticationFailed => .authenticationFailed
  | .permissionDenied => .permissionDenied
  | .invalidPath _ _ => .invalidPath
  | .entryNotFound _ => .entryNotFound
  | .ambiguousEntry _ => .ambiguousEntry

def CSharp.KdbxException.kind : CSharp.KdbxException → Kind
  | .secretNotFound _ => .secretNotFound
  | .databaseNotFound _ => .databaseNotFound
  | .databaseCorrupt _ _ => .databaseCorrupt
  | .authenticationFailed _ => .authenticationFailed
  | .permissionDenied _ _ => .permissionDenied
  | .invalidPath _ _ => .invalidPath
  | .entryNotFound _ => .entryNotFound
  | .ambiguousEntry _ => .ambiguousEntry

end KdbxCredentials

namespace KdbxCredentials.Opening

open KdbxCredentials.Text
open KdbxCredentials.Posix
open KdbxCredentials.Rust
open KdbxCredentials.Lookup
open KdbxCredentials.SecretStore
open KdbxCredentials.CSharp (PwGroup LoadException KdbxException Thrown KeepsMeaning readFull
  resolveFull)

/-- The two readers take a file alike: both load the same tree, reject the key, or
reject the file. -/
inductive SameLoad : Except DatabaseOpenError KpDatabase → Except LoadException PwGroup → Prop
  | ok (db : KpDatabase) : SameLoad (.ok db) (.ok (toDatabase db).rootGroup)
  | key (inner : Str) : SameLoad (.error (.key inner)) (.error .invalidCompositeKey)
  | rejected {error : DatabaseOpenError} (message : Str) :
      rejectsContents error = true → SameLoad (.error error) (.error (.other message))

/-- The same database, or failures of one kind. -/
inductive SameOpening : Except KdbxError KpDatabase → Except Thrown CSharp.Database → Prop
  | ok (db : KpDatabase) : SameOpening (.ok db) (.ok (toDatabase db))
  | error {error : KdbxError} {exception : KdbxException} :
      error.kind = exception.kind → SameOpening (.error error) (.error (.kdbx exception))

/-- The path is well behaved for both ways of examining it. -/
structure Examinable (w : World) (dbPath : Bytes) : Prop where
  noNul : nul ∉ dbPath
  passable : ¬w.ThroughNonDirectory dbPath
  searchable : ¬w.Refused dbPath
  notSpecial : ∀ readable stream, ¬w.ResolvesTo dbPath (.special readable stream)

variable {kpOpen : Bytes → Str → Except DatabaseOpenError KpDatabase}
variable {load : Bytes → Str → Except LoadException PwGroup}
variable {w : World} {dbPath password : Str}

/-! ## With a password -/

/-- A file that both readers take alike is opened alike. -/
theorem sameOpening_of_load {loaded : Except DatabaseOpenError KpDatabase}
    {loaded' : Except LoadException PwGroup} (same : SameLoad loaded loaded') (dbPath : Str) :
    SameOpening (loaded.mapError mapOpenError)
      ((((loaded'.mapError CSharp.LoadException.toSystem).mapError
        (CSharp.mapOpenException dbPath)).map fun rootGroup =>
          ({ rootGroup := rootGroup } : CSharp.Database)).mapError Thrown.kdbx) := by
  cases same with
  | ok db => exact SameOpening.ok db
  | key inner => exact SameOpening.error rfl
  | rejected message rejects =>
      rename_i error
      rcases mapOpenError_cases error with ⟨inner, rfl, _⟩ | ⟨rfl, _⟩ | ⟨_, source, mapped⟩
      · cases rejects
      · cases rejects
      · rw [Except.mapError, mapped]
        exact SameOpening.error rfl

/-- Both sides report a path that names a directory, or nothing, as missing. -/
theorem sameOpening_databaseNotFound
    (rust : Rust.openWithPassword kpOpen w (utf8 dbPath) password =
      .error (.databaseNotFound (utf8 dbPath)))
    (absent : CSharp.fileExists w dbPath = false) :
    SameOpening (Rust.openWithPassword kpOpen w (utf8 dbPath) password)
      ((CSharp.openWithPassword load w dbPath password).mapError Thrown.kdbx) := by
  rw [rust, CSharp.openWithPassword_of_not_exists load password absent]
  exact SameOpening.error rfl

/-- On a path of another kind the C# library finds no file, or does not miss it. -/
theorem not_sameOpening_of_kind {error : KdbxError}
    (rust : Rust.openWithPassword kpOpen w (utf8 dbPath) password = .error error)
    (kind : ∀ exception, CSharp.openWithPassword load w dbPath password = .error exception →
      error.kind ≠ exception.kind) :
    ¬SameOpening (Rust.openWithPassword kpOpen w (utf8 dbPath) password)
      ((CSharp.openWithPassword load w dbPath password).mapError Thrown.kdbx) := by
  rw [rust]
  intro same
  cases outcome : CSharp.openWithPassword load w dbPath password with
  | ok db =>
      rw [outcome] at same
      cases same
  | error exception =>
      rw [outcome] at same
      cases same with
      | error sameKind => exact kind exception outcome sameKind

/-- A path that fails in Rust otherwise than as a missing one is still a missing
one in C#. -/
theorem not_sameOpening_of_absent {error : KdbxError}
    (rust : Rust.openWithPassword kpOpen w (utf8 dbPath) password = .error error)
    (other : error.kind ≠ .databaseNotFound) (absent : CSharp.fileExists w dbPath = false) :
    ¬SameOpening (Rust.openWithPassword kpOpen w (utf8 dbPath) password)
      ((CSharp.openWithPassword load w dbPath password).mapError Thrown.kdbx) := by
  apply not_sameOpening_of_kind rust
  intro exception failed
  rw [CSharp.openWithPassword_of_not_exists load password absent] at failed
  cases failed
  exact other

/-- The C# library does not miss a file that is there. -/
theorem kind_ne_databaseNotFound {loc : Location} (found : resolveFull w (utf8 dbPath) = .ok loc)
    (file : loc.node.isDirectory = false) {exception : KdbxException}
    (failed : CSharp.openWithPassword load w dbPath password = .error exception) :
    exception.kind ≠ .databaseNotFound := by
  cases readable : loc.node.isReadable with
  | false =>
      rw [CSharp.openWithPassword_of_unreadable load password found file readable] at failed
      cases failed
      rintro ⟨⟩
  | true =>
      have present := (CSharp.openWithPassword_of_readable load password found file readable).2
      rw [failed] at present
      cases exception with
      | databaseNotFound path => exact absurd rfl (present path)
      | _ => rintro ⟨⟩

/-- A special node, which Rust takes for a missing file, is read by C#. -/
theorem not_sameOpening_of_special (keeps : KeepsMeaning w (utf8 dbPath)) {loc : Location}
    {readable : Bool} {stream : Option Bytes} (noNul : nul ∉ utf8 dbPath)
    (found : w.resolve (utf8 dbPath) = .ok loc)
    (special : loc.node = .special readable stream) :
    ¬SameOpening (Rust.openWithPassword kpOpen w (utf8 dbPath) password)
      ((CSharp.openWithPassword load w dbPath password).mapError Thrown.kdbx) := by
  have irregular : loc.node.isRegular = false := by
    rw [special]
    rfl
  have file : loc.node.isDirectory = false := by
    rw [special]
    rfl
  apply not_sameOpening_of_kind
    (openWithPassword_of_irregular kpOpen password noNul found irregular)
  intro exception failed kind
  exact kind_ne_databaseNotFound (keeps.trans found) file failed kind.symm

/-- A node that is found is opened alike unless it is a special one. -/
theorem sameOpening_of_ok_iff (keeps : KeepsMeaning w (utf8 dbPath)) (noNul : nul ∉ utf8 dbPath)
    {loc : Location} (found : w.resolve (utf8 dbPath) = .ok loc)
    (readers : ∀ contents, Opened w (utf8 dbPath) contents →
      SameLoad (kpOpen contents password) (load contents password)) :
    SameOpening (Rust.openWithPassword kpOpen w (utf8 dbPath) password)
        ((CSharp.openWithPassword load w dbPath password).mapError Thrown.kdbx) ↔
      ∀ readable stream, loc.node ≠ .special readable stream := by
  have found' : resolveFull w (utf8 dbPath) = .ok loc := keeps.trans found
  rcases loc with ⟨node, ancestors⟩
  cases node with
  | directory searchable entries =>
      have absent : CSharp.fileExists w dbPath = false := CSharp.fileExists_of_ok found'
      have rust := openWithPassword_of_irregular kpOpen password noNul found rfl
      simp only [ne_eq, reduceCtorEq, not_false_eq_true, implies_true, iff_true]
      exact sameOpening_databaseNotFound rust absent
  | special readable stream =>
      exact iff_of_false (not_sameOpening_of_special keeps noNul found rfl) fun other =>
        other readable stream rfl
  | regular readable contents =>
      simp only [ne_eq, reduceCtorEq, not_false_eq_true, implies_true, iff_true]
      cases readable with
      | false =>
          rw [openWithPassword_of_unreadable kpOpen password noNul found,
            CSharp.openWithPassword_of_unreadable load password found' rfl rfl]
          exact SameOpening.error rfl
      | true =>
          rw [openWithPassword_of_readable kpOpen password noNul found,
            CSharp.openWithPassword_of_file load password found' rfl]
          exact sameOpening_of_load (readers contents ⟨_, found, rfl⟩) dbPath

/-- With a password the two sides open a path alike exactly when it is well
behaved. -/
theorem sameOpening_withPassword_iff (keeps : KeepsMeaning w (utf8 dbPath))
    (readers : ∀ contents, Opened w (utf8 dbPath) contents →
      SameLoad (kpOpen contents password) (load contents password)) :
    SameOpening (Rust.openWithPassword kpOpen w (utf8 dbPath) password)
        ((CSharp.openWithPassword load w dbPath password).mapError Thrown.kdbx) ↔
      Examinable w (utf8 dbPath) := by
  by_cases hasNul : nul ∈ utf8 dbPath
  · have rust := openWithPassword_of_nul kpOpen (w := w) password hasNul
    have absent : CSharp.fileExists w dbPath = false := by
      apply CSharp.fileExists_of_error
      exact CSharp.resolveFull_of_illFormed fun formed => formed.2 hasNul
    exact iff_of_false (not_sameOpening_of_absent rust (by simp [KdbxError.kind]) absent)
      fun examinable => examinable.noNul hasNul
  · rcases World.resolve_cases w (utf8 dbPath) with
      ⟨failed, missing⟩ | ⟨failed, through⟩ | ⟨failed, refused⟩ | ⟨loc, found, _⟩
    · have rust := openWithPassword_of_error kpOpen password hasNul failed
      have examinable : Examinable w (utf8 dbPath) := by
        constructor
        · exact hasNul
        · rw [← World.resolve_eq_enotdir_iff, failed]
          simp
        · rw [← World.resolve_eq_eacces_iff, failed]
          simp
        · exact fun _ _ => World.not_resolvesTo_of_error failed _
      have absent := CSharp.fileExists_of_error (keeps.trans failed)
      exact iff_of_true (sameOpening_databaseNotFound rust absent) examinable
    · have rust := openWithPassword_of_error kpOpen password hasNul failed
      have other : (mapIoError (utf8 dbPath) (errorKind .enotdir)).kind ≠
          .databaseNotFound := by
        simp [KdbxError.kind, mapIoError, errorKind]
      exact iff_of_false
        (not_sameOpening_of_absent rust other (CSharp.fileExists_of_error (keeps.trans failed)))
        fun examinable => examinable.passable through
    · have rust := openWithPassword_of_error kpOpen password hasNul failed
      have other : (mapIoError (utf8 dbPath) (errorKind .eacces)).kind ≠
          .databaseNotFound := by
        simp [KdbxError.kind, mapIoError, errorKind]
      exact iff_of_false
        (not_sameOpening_of_absent rust other (CSharp.fileExists_of_error (keeps.trans failed)))
        fun examinable => examinable.searchable refused
    · rw [sameOpening_of_ok_iff keeps hasNul found readers]
      obtain ⟨_, passable, searchable, resolves⟩ := World.of_resolve_eq_ok found
      constructor
      · intro notSpecial
        refine ⟨hasNul, passable, searchable, fun readable stream resolved => ?_⟩
        exact notSpecial readable stream ((resolves _).mp resolved)
      · intro examinable readable stream special
        exact examinable.notSpecial readable stream ((resolves _).mpr special)

/-! ## With the stored password -/

/-- A service gets the same credentials directory on both sides. -/
structure SameService (env : Rust.Environment) (env' : CSharp.Environment)
    (dir : CredentialsDirectory) : Prop where
  rust : env.varOs credentialsDirEnv = some (utf8 dir.path)
  csharp : env'.getEnvironmentVariable CSharp.LinuxSecretStore.credentialsDirEnv = some dir.path

variable {env : Rust.Environment} {env' : CSharp.Environment} {dir : CredentialsDirectory}
variable {key : Str}

/-- In one service whose directory is there the two stores have the same outcome for a
key that the two checks judge alike. -/
theorem SameService.sameSecret (service : SameService env env' dir) (direct : dir.Direct w)
    (alike : CSharp.isSafeCredentialId key = isSafeCredentialId key) :
    SameSecret ((Rust.getMasterPassword env key).run w.readFile)
      ((CSharp.LinuxSecretStore.getMasterPassword env' key).run (readFull w)) := by
  have dirNonempty : dir.path ≠ [] := by
    intro empty
    have absolute := dir.isAbsolute
    rw [empty] at absolute
    cases absolute
  rw [Rust.getMasterPassword, service.rust, CSharp.LinuxSecretStore.getMasterPassword,
    service.csharp]
  simp only [if_neg dirNonempty]
  exact sameSecret_of_direct direct alike

/-- In one service both sides fail before they get to the database, in one way, or
both open it with the same password. -/
theorem SameService.open_cases (service : SameService env env' dir) (direct : dir.Direct w)
    (alike : CSharp.isSafeCredentialId key = isSafeCredentialId key)
    (kpOpen : Bytes → Str → Except DatabaseOpenError KpDatabase)
    (load : Bytes → Str → Except LoadException PwGroup) (dbPath : Str) :
    (∃ error exception,
        (∀ password, (Rust.getMasterPassword env key).run w.readFile ≠ .ok password) ∧
        error.kind = exception.kind ∧
        Rust.open kpOpen env w (utf8 dbPath) key = .error error ∧
        CSharp.Database.open load env' w dbPath key = .error (.kdbx exception)) ∨
      ∃ password, (Rust.getMasterPassword env key).run w.readFile = .ok password ∧
        Rust.open kpOpen env w (utf8 dbPath) key =
          Rust.openWithPassword kpOpen w (utf8 dbPath) password ∧
        CSharp.Database.open load env' w dbPath key =
          (CSharp.openWithPassword load w dbPath password).mapError Thrown.kdbx := by
  have same := service.sameSecret direct alike
  rw [Rust.open, CSharp.Database.open]
  generalize (Rust.getMasterPassword env key).run w.readFile = secret at same ⊢
  generalize (CSharp.LinuxSecretStore.getMasterPassword env' key).run (readFull w) = secret'
    at same ⊢
  cases same with
  | ok password => exact Or.inr ⟨password, rfl, rfl, rfl⟩
  | secretNotFound key =>
      exact Or.inl ⟨.secretNotFound key, .secretNotFound key, by simp, rfl, rfl, rfl⟩
  | permissionDenied message inner =>
      exact Or.inl ⟨.permissionDenied, .permissionDenied message inner, by simp, rfl, rfl, rfl⟩

/-- The environment of a service with credentials, in Rust. -/
def serviceEnvironment (dir : CredentialsDirectory) : Rust.Environment where
  varOs name := if name = credentialsDirEnv then some (utf8 dir.path) else none
  nul_not_mem := by
    intro name value found
    split_ifs at found with named
    rw [← Option.some.inj found, nul_mem_utf8_iff]
    exact dir.noNul

/-- The environment of a service with credentials, in C#. -/
def serviceVariables (dir : CredentialsDirectory) : CSharp.Environment where
  getEnvironmentVariable name :=
    if name = CSharp.LinuxSecretStore.credentialsDirEnv then some dir.path else none
  nul_not_mem := by
    intro name value found
    split_ifs at found with named
    rw [← Option.some.inj found]
    exact dir.noNul

/-- A file system with the credential `kdbx-master`, the file `/vault` and the
pipe `/pipe`. -/
def vaultWorld : World where
  root := .directory true
    [(utf8 "run".toList,
      .directory true [(utf8 "kdbx-master".toList, .regular true (utf8 "pw".toList))]),
      (utf8 "vault".toList, .regular true []),
      (utf8 "pipe".toList, .special true (some []))]
  cwd := []

/-- A reader that takes one password. -/
def vaultOpen (_ : Bytes) (password : Str) : Except DatabaseOpenError KpDatabase :=
  if password = "pw".toList then .ok webWithNameless else .error (.key "Incorrect key".toList)

def vaultLoad (_ : Bytes) (password : Str) : Except LoadException PwGroup :=
  if password = "pw".toList then .ok (toDatabase webWithNameless).rootGroup
  else .error .invalidCompositeKey

end KdbxCredentials.Opening
