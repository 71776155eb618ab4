import KdbxCredentials.Rust.Error
import KdbxCredentials.Rust.Node

/-!
# Opening a database in Rust

`open_with_password` and its two error mappings.  What `keepass-ng` makes of the
contents of a file and a password is a parameter.
-/

namespace KdbxCredentials.Rust

open KdbxCredentials.Text
open KdbxCredentials.Posix

/-! ## The standard library -/

/-- `std::fs::metadata`, as the node it describes. -/
def metadata (w : World) (path : Bytes) : Except ErrorKind FsNode :=
  if nul ∈ path then .error .invalidInput
  else ((w.resolve path).map Location.node).mapError errorKind

/-- `File::open`. -/
def fileOpen (w : World) (path : Bytes) : Except ErrorKind FsNode :=
  if nul ∈ path then .error .invalidInput
  else (w.openFile path).mapError errorKind

/-! ## Opening -/

/-- Map a file system error encountered while locating or opening the database. -/
def mapIoError (dbPath : Bytes) : ErrorKind → KdbxError
  | .notFound => .databaseNotFound dbPath
  | .permissionDenied => .permissionDenied
  | kind => .databaseCorrupt (.io kind)

/-- Map a `keepass-ng` open error onto the crate's errors. -/
def mapOpenError : DatabaseOpenError → KdbxError
  | .key _ => .authenticationFailed
  | .io .permissionDenied => .permissionDenied
  | .io kind => .databaseCorrupt (.io kind)
  | .databaseIntegrity inner => .databaseCorrupt (.databaseIntegrity inner)
  | .unsupportedVersion =>
      .databaseCorrupt (.text "unsupported KDBX version (KDBX 3.1 or earlier is not supported)")

variable (kpOpen : Bytes → Str → Except DatabaseOpenError KpDatabase)

/-- `KpDatabase::open` on an open file, which it reads to its end. -/
def databaseOpen (file : FsNode) (password : Str) : Except DatabaseOpenError KpDatabase := do
  let contents ← file.read.mapError fun e => .io (errorKind e)
  kpOpen contents password

/-- Open the database using an already-resolved master password. -/
def openWithPassword (w : World) (dbPath : Bytes) (password : Str) :
    Except KdbxError KpDatabase := do
  let node ← (metadata w dbPath).mapError (mapIoError dbPath)
  if !node.isRegular then
    throw (.databaseNotFound dbPath)
  let file ← (fileOpen w dbPath).mapError (mapIoError dbPath)
  (databaseOpen kpOpen file password).mapError mapOpenError

/-! ## The result by the end of the resolution -/

variable {w : World} {dbPath : Bytes} (password : Str)

theorem openWithPassword_of_nul (hasNul : nul ∈ dbPath) :
    openWithPassword kpOpen w dbPath password =
      .error (.databaseCorrupt (.io .invalidInput)) := by
  rw [openWithPassword, metadata, if_pos hasNul]
  rfl

theorem openWithPassword_of_error (noNul : nul ∉ dbPath) {e : Errno}
    (failed : w.resolve dbPath = .error e) :
    openWithPassword kpOpen w dbPath password = .error (mapIoError dbPath (errorKind e)) := by
  rw [openWithPassword, metadata, if_neg noNul, failed]
  rfl

theorem openWithPassword_of_irregular (noNul : nul ∉ dbPath) {loc : Location}
    (found : w.resolve dbPath = .ok loc) (irregular : loc.node.isRegular = false) :
    openWithPassword kpOpen w dbPath password = .error (.databaseNotFound dbPath) := by
  rcases loc with ⟨node, ancestors⟩
  rw [openWithPassword, metadata, if_neg noNul, found]
  cases node with
  | regular readable contents => cases irregular
  | directory searchable entries => rfl
  | special readable stream => rfl

theorem openWithPassword_of_unreadable (noNul : nul ∉ dbPath) {contents : Bytes}
    {ancestors : List FsNode}
    (found : w.resolve dbPath = .ok ⟨.regular false contents, ancestors⟩) :
    openWithPassword kpOpen w dbPath password = .error .permissionDenied := by
  rw [openWithPassword, metadata, fileOpen, if_neg noNul, if_neg noNul, World.openFile, found]
  rfl

theorem openWithPassword_of_readable (noNul : nul ∉ dbPath) {contents : Bytes}
    {ancestors : List FsNode}
    (found : w.resolve dbPath = .ok ⟨.regular true contents, ancestors⟩) :
    openWithPassword kpOpen w dbPath password =
      (kpOpen contents password).mapError mapOpenError := by
  rw [openWithPassword, metadata, fileOpen, if_neg noNul, if_neg noNul, World.openFile, found]
  rfl

end KdbxCredentials.Rust
