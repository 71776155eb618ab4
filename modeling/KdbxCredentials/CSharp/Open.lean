import KdbxCredentials.CSharp.Database
import KdbxCredentials.CSharp.FullPath

/-!
# Opening a database in C#

`Database.OpenWithPassword`: the existence test, the call of `PwDatabase.Open`
and its `catch` clauses.  What KeePassLib makes of the contents of a file and a
password is a parameter; it can reject the key or fail in ways of its own.
-/

namespace KdbxCredentials.CSharp

open KdbxCredentials.Text
open KdbxCredentials.Posix

/-! ## .NET and KeePassLib -/

/-- `File.Exists`: the full path does not end in a slash, can be examined and does not
name a directory. -/
def fileExists (w : World) (path : Str) : Bool :=
  match getFullPath w (utf8 path) with
  | .error _ => false
  | .ok full =>
      if full.getLast? = some slash then false
      else
        match w.resolve full with
        | .ok loc => !loc.node.isDirectory
        | .error _ => false

/-- How KeePassLib fails on contents that it has read. -/
inductive LoadException
  | invalidCompositeKey
  | other (message : Str)
  deriving DecidableEq, Repr

def LoadException.toSystem : LoadException → SystemException
  | .invalidCompositeKey => .invalidCompositeKey
  | .other message => .other message

variable (load : Bytes → Str → Except LoadException PwGroup)

/-- `PwDatabase.Open`: open the file at its full path, read it and load the tree. -/
def pwDatabaseOpen (w : World) (path password : Str) : Except SystemException PwGroup := do
  if ¬WellFormed (utf8 path) then
    throw .argument
  let contents ← (readFull w (utf8 path)).mapError ioException
  (load contents password).mapError LoadException.toSystem

/-! ## Opening -/

/-- The `catch` clauses of `OpenWithPassword`. -/
def mapOpenException (dbPath : Str) : SystemException → KdbxException
  | .invalidCompositeKey => .authenticationFailed (some .invalidCompositeKey)
  | .unauthorizedAccess =>
      .permissionDenied "permission denied reading the database file" (some .unauthorizedAccess)
  | .fileNotFound => .databaseNotFound dbPath
  | exception =>
      .databaseCorrupt "database file is corrupt or in an unsupported format" (some exception)

/-- Open the database using an already-resolved master password. -/
def openWithPassword (w : World) (dbPath password : Str) : Except KdbxException Database := do
  if !fileExists w dbPath then
    throw (.databaseNotFound dbPath)
  let rootGroup ← (pwDatabaseOpen load w dbPath password).mapError (mapOpenException dbPath)
  return { rootGroup := rootGroup }

/-! ## The result by the end of the resolution -/

variable {w : World} {dbPath : Str} (password : Str)

theorem openWithPassword_of_not_exists (absent : fileExists w dbPath = false) :
    openWithPassword load w dbPath password = .error (.databaseNotFound dbPath) := by
  rw [openWithPassword, absent]
  rfl

/-- The slash at the end of a full path is found in its resolution as well. -/
theorem fileExists_eq (w : World) (dbPath : Str) :
    fileExists w dbPath =
      match resolveFull w (utf8 dbPath) with
      | .ok loc => !loc.node.isDirectory
      | .error _ => false := by
  rw [fileExists, resolveFull]
  cases getFullPath w (utf8 dbPath) with
  | error e => rfl
  | ok full =>
      change (if full.getLast? = some slash then false else _) = match w.resolve full with
        | .ok loc => !loc.node.isDirectory
        | .error _ => false
      by_cases ends : full.getLast? = some slash
      · rw [if_pos ends]
        cases found : w.resolve full with
        | error e => rfl
        | ok loc =>
            dsimp only
            rw [World.isDirectory_of_slash found ends]
            rfl
      · rw [if_neg ends]

theorem fileExists_of_error {e : Errno} (failed : resolveFull w (utf8 dbPath) = .error e) :
    fileExists w dbPath = false := by
  rw [fileExists_eq, failed]

theorem fileExists_of_ok {loc : Location} (found : resolveFull w (utf8 dbPath) = .ok loc) :
    fileExists w dbPath = !loc.node.isDirectory := by
  rw [fileExists_eq, found]

/-- A node that is not a directory is read, and its contents are loaded. -/
theorem openWithPassword_of_file {loc : Location} (found : resolveFull w (utf8 dbPath) = .ok loc)
    (file : loc.node.isDirectory = false) :
    openWithPassword load w dbPath password =
      (((loc.node.read.mapError ioException).bind fun contents =>
        (load contents password).mapError LoadException.toSystem).mapError
          (mapOpenException dbPath)).map fun rootGroup => { rootGroup := rootGroup } := by
  have formed := wellFormed_of_resolveFull found
  have present : fileExists w dbPath = true := by
    rw [fileExists_of_ok found, file]
    rfl
  rw [openWithPassword, present, pwDatabaseOpen, if_neg (not_not.mpr formed), readFull_eq, found]
  rfl

/-- A node that may not be read is refused with the exception for it. -/
theorem openWithPassword_of_unreadable {loc : Location}
    (found : resolveFull w (utf8 dbPath) = .ok loc) (file : loc.node.isDirectory = false)
    (unreadable : loc.node.isReadable = false) :
    openWithPassword load w dbPath password =
      .error (.permissionDenied "permission denied reading the database file"
        (some .unauthorizedAccess)) := by
  have refused : loc.node.read = .error .eacces := by
    cases shape : loc.node with
    | directory searchable entries =>
        rw [shape] at file
        cases file
    | regular readable contents =>
        rw [shape] at unreadable
        cases unreadable
        rfl
    | special readable stream =>
        rw [shape] at unreadable
        cases unreadable
        rfl
  rw [openWithPassword_of_file load password found file, refused]
  rfl

/-- The failures of a load are neither a lack of permission nor a missing file. -/
theorem openWithPassword_of_readable {loc : Location}
    (found : resolveFull w (utf8 dbPath) = .ok loc) (file : loc.node.isDirectory = false)
    (readable : loc.node.isReadable = true) :
    (∀ message inner, openWithPassword load w dbPath password ≠
        .error (.permissionDenied message inner)) ∧
      ∀ path, openWithPassword load w dbPath password ≠ .error (.databaseNotFound path) := by
  have answer : (∃ contents, loc.node.read = .ok contents) ∨ loc.node.read = .error .eio := by
    cases shape : loc.node with
    | directory searchable entries =>
        rw [shape] at file
        cases file
    | regular allowed contents =>
        rw [shape] at readable
        cases readable
        exact Or.inl ⟨contents, rfl⟩
    | special allowed stream =>
        rw [shape] at readable
        cases readable
        cases stream with
        | none => exact Or.inr rfl
        | some contents => exact Or.inl ⟨contents, rfl⟩
  rw [openWithPassword_of_file load password found file]
  rcases answer with ⟨contents, read⟩ | read
  · rw [read]
    change (∀ message inner, (((load contents password).mapError _).mapError _).map _ ≠ _) ∧
      ∀ path, (((load contents password).mapError _).mapError _).map _ ≠ _
    cases load contents password with
    | ok rootGroup => simp [Except.mapError, Except.map]
    | error exception =>
        cases exception <;>
          simp [Except.mapError, Except.map, LoadException.toSystem, mapOpenException]
  · rw [read]
    simp [Except.mapError, Except.map, Except.bind, ioException, mapOpenException]

end KdbxCredentials.CSharp
