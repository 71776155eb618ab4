import KdbxCredentials.Rust.OpenCalls

/-!
# Readers that panic

`keepass-ng` panics on some files that have been cut short, and the crate does not
catch a panic.  With a reader that may panic the code of `open` is the same, and it is
`open` itself when the reader returns.  Whatever the reader, `open` fails before it
gets to the contents of the file, or the reader decides how it ends.
-/

namespace KdbxCredentials.Rust

open KdbxCredentials.Text
open KdbxCredentials.Effects
open KdbxCredentials.Posix

/-- A function that gives no value returns an error, or panics. -/
inductive Failure (ε : Type)
  | returned (error : ε)
  | panicked
  deriving DecidableEq, Repr

/-- Map the error that is returned. -/
def Failure.map {ε ε' : Type} (f : ε → ε') : Failure ε → Failure ε'
  | returned error => returned (f error)
  | panicked => panicked

/-- What `keepass-ng` makes of the contents of a file and a password. -/
abbrev Reader : Type :=
  Bytes → Str → Except (Failure DatabaseOpenError) KpDatabase

/-- A reader that never panics. -/
def Reader.ofResults (kpOpen : Bytes → Str → Except DatabaseOpenError KpDatabase) : Reader :=
  fun contents password => (kpOpen contents password).mapError .returned

/-! ## Opening -/

variable (kpOpen : Reader)

/-- `KpDatabase::open` on an open file, which it reads to its end. -/
def Reader.databaseOpen (file : FsNode) (password : Str) :
    Except (Failure DatabaseOpenError) KpDatabase := do
  let contents ← file.read.mapError fun e => .returned (.io (errorKind e))
  kpOpen contents password

/-- Open the database using an already-resolved master password. -/
def Reader.openWithPassword (w : World) (dbPath : Bytes) (password : Str) :
    Except (Failure KdbxError) KpDatabase := do
  let node ← (metadata w dbPath).mapError fun kind => .returned (mapIoError dbPath kind)
  if !node.isRegular then
    throw (.returned (.databaseNotFound dbPath))
  let file ← (fileOpen w dbPath).mapError fun kind => .returned (mapIoError dbPath kind)
  (kpOpen.databaseOpen file password).mapError (Failure.map mapOpenError)

/-- Open the database, authenticating with the master password stored under a
key. -/
def Reader.open (env : Environment) (w : World) (dbPath : Bytes) (secretStoreKey : Str) :
    Except (Failure KdbxError) KpDatabase := do
  let master ← ((getMasterPassword env secretStoreKey).run w.readFile).mapError .returned
  kpOpen.openWithPassword w dbPath master

/-! ## What the reader is given -/

/-- The contents that `open_with_password` hands to the reader. -/
def openedContents (w : World) (dbPath : Bytes) : Except KdbxError Bytes := do
  let node ← (metadata w dbPath).mapError (mapIoError dbPath)
  if !node.isRegular then
    throw (.databaseNotFound dbPath)
  let file ← (fileOpen w dbPath).mapError (mapIoError dbPath)
  file.read.mapError fun e => mapOpenError (.io (errorKind e))

/-- The contents and the password that `open` hands to the reader. -/
def handedOver (env : Environment) (w : World) (dbPath : Bytes) (secretStoreKey : Str) :
    Except KdbxError (Bytes × Str) := do
  let master ← (getMasterPassword env secretStoreKey).run w.readFile
  let contents ← openedContents w dbPath
  return (contents, master)

variable {env : Environment} {w : World} {dbPath : Bytes} {key password : Str}

/-- The reader is called when the file has been opened and read. -/
theorem Reader.openWithPassword_eq (w : World) (dbPath : Bytes) (password : Str) :
    kpOpen.openWithPassword w dbPath password =
      (openedContents w dbPath).mapError .returned >>= fun contents =>
        (kpOpen contents password).mapError (Failure.map mapOpenError) := by
  rw [Reader.openWithPassword, openedContents]
  cases metadata w dbPath with
  | error kind => rfl
  | ok node =>
      cases node with
      | directory searchable entries => rfl
      | special readable stream => rfl
      | regular readable held =>
          cases fileOpen w dbPath with
          | error kind => rfl
          | ok file =>
              change (kpOpen.databaseOpen file password).mapError _ =
                Except.mapError _ (file.read.mapError _) >>= _
              rw [Reader.databaseOpen]
              cases file.read <;> rfl

/-- `open` ends as the reader does, if it gets that far. -/
theorem Reader.open_eq (env : Environment) (w : World) (dbPath : Bytes) (key : Str) :
    kpOpen.open env w dbPath key =
      (handedOver env w dbPath key).mapError .returned >>= fun (contents, password) =>
        (kpOpen contents password).mapError (Failure.map mapOpenError) := by
  rw [Reader.open, handedOver]
  cases (getMasterPassword env key).run w.readFile with
  | error error => rfl
  | ok master =>
      change kpOpen.openWithPassword w dbPath master = _
      rw [Reader.openWithPassword_eq]
      cases openedContents w dbPath <;> rfl

/-- The contents are those of a readable regular file. -/
theorem openedContents_eq_ok_iff {contents : Bytes} :
    openedContents w dbPath = .ok contents ↔
      nul ∉ dbPath ∧ w.ResolvesTo dbPath (.regular true contents) := by
  rw [openedContents]
  by_cases hasNul : nul ∈ dbPath
  · rw [metadata, if_pos hasNul]
    apply iff_of_false
    · intro opened
      cases opened
    · exact fun opened => opened.1 hasNul
  · rw [metadata, fileOpen, if_neg hasNul, if_neg hasNul, World.ResolvesTo, World.openFile,
      and_iff_right hasNul]
    cases w.resolve dbPath with
    | error e => simp [Except.map, Except.mapError, bind, Except.bind]
    | ok loc =>
        rcases loc with ⟨node, ancestors⟩
        cases node with
        | directory searchable entries =>
            simp [Except.map, Except.mapError, bind, Except.bind, FsNode.isRegular]
        | special readable stream =>
            simp [Except.map, Except.mapError, bind, Except.bind, FsNode.isRegular]
        | regular readable contents =>
            cases readable <;>
              simp [Except.map, Except.mapError, bind, Except.bind, FsNode.isRegular,
                FsNode.isReadable, FsNode.read]

theorem handedOver_eq_ok_iff {contents : Bytes} :
    handedOver env w dbPath key = .ok (contents, password) ↔
      (getMasterPassword env key).run w.readFile = .ok password ∧
        nul ∉ dbPath ∧ w.ResolvesTo dbPath (.regular true contents) := by
  rw [handedOver, bind_eq_ok_iff, ← openedContents_eq_ok_iff]
  constructor
  · rintro ⟨master, fetched, opened⟩
    obtain ⟨contents', read, returned⟩ := bind_eq_ok_iff.mp opened
    cases returned
    exact ⟨fetched, read⟩
  · rintro ⟨fetched, read⟩
    refine ⟨password, fetched, ?_⟩
    rw [read]
    rfl

/-- A database is opened from what the reader is given. -/
theorem Reader.open_eq_ok_iff {db : KpDatabase} :
    kpOpen.open env w dbPath key = .ok db ↔
      ∃ password contents, (getMasterPassword env key).run w.readFile = .ok password ∧
        nul ∉ dbPath ∧ w.ResolvesTo dbPath (.regular true contents) ∧
        kpOpen contents password = .ok db := by
  rw [Reader.open_eq, bind_eq_ok_iff]
  simp only [mapError_eq_ok_iff]
  constructor
  · rintro ⟨⟨contents, password⟩, handed, result⟩
    obtain ⟨fetched, noNul, opened⟩ := handedOver_eq_ok_iff.mp handed
    exact ⟨password, contents, fetched, noNul, opened, result⟩
  · rintro ⟨password, contents, fetched, noNul, opened, result⟩
    exact ⟨(contents, password), handedOver_eq_ok_iff.mpr ⟨fetched, noNul, opened⟩, result⟩

/-! ## Panics -/

/-- Readers that agree on the contents of the file open it alike. -/
theorem Reader.open_congr {kpOpen kpOpen' : Reader}
    (agree : ∀ contents, w.ResolvesTo dbPath (.regular true contents) →
      ∀ password, kpOpen contents password = kpOpen' contents password) :
    kpOpen.open env w dbPath key = kpOpen'.open env w dbPath key := by
  rw [Reader.open_eq, Reader.open_eq]
  cases handed : handedOver env w dbPath key with
  | error error => rfl
  | ok pair =>
      rcases pair with ⟨contents, password⟩
      obtain ⟨_, _, opened⟩ := handedOver_eq_ok_iff.mp handed
      change (kpOpen contents password).mapError _ = (kpOpen' contents password).mapError _
      rw [agree contents opened]

/-! ## Readers that return -/

/-- With a reader that never panics this is `open_with_password`. -/
theorem Reader.openWithPassword_ofResults
    (kpOpen : Bytes → Str → Except DatabaseOpenError KpDatabase) (w : World) (dbPath : Bytes)
    (password : Str) :
    (Reader.ofResults kpOpen).openWithPassword w dbPath password =
      (Rust.openWithPassword kpOpen w dbPath password).mapError .returned := by
  rw [Reader.openWithPassword, Rust.openWithPassword]
  cases metadata w dbPath with
  | error kind => rfl
  | ok node =>
      cases node with
      | directory searchable entries => rfl
      | special readable stream => rfl
      | regular readable held =>
          cases fileOpen w dbPath with
          | error kind => rfl
          | ok file =>
              change ((Reader.ofResults kpOpen).databaseOpen file password).mapError _ =
                Except.mapError _ ((Rust.databaseOpen kpOpen file password).mapError mapOpenError)
              rw [Reader.databaseOpen, Rust.databaseOpen]
              cases file.read with
              | error e => rfl
              | ok contents =>
                  change ((kpOpen contents password).mapError _).mapError _ =
                    ((kpOpen contents password).mapError mapOpenError).mapError _
                  cases kpOpen contents password <;> rfl

/-- With a reader that never panics this is `open`. -/
theorem Reader.open_ofResults (kpOpen : Bytes → Str → Except DatabaseOpenError KpDatabase)
    (env : Environment) (w : World) (dbPath : Bytes) (key : Str) :
    (Reader.ofResults kpOpen).open env w dbPath key =
      (Rust.open kpOpen env w dbPath key).mapError .returned := by
  rw [Reader.open, Rust.open]
  cases (getMasterPassword env key).run w.readFile with
  | error error => rfl
  | ok master => exact Reader.openWithPassword_ofResults kpOpen w dbPath master

end KdbxCredentials.Rust
