import KdbxCredentials.Posix.Program
import KdbxCredentials.Rust.Error

/-!
# The Linux secret store of the Rust crate

`secret_store.rs` on Linux: the choice of the credentials directory from the
environment, the check of the key, and the one file read.  Paths are byte
strings; the key is a string and enters a path by its UTF-8 encoding.
-/

namespace KdbxCredentials.Rust

open KdbxCredentials.Text
open KdbxCredentials.Posix

/-! ## The standard library -/

/-- `std::fs::read_to_string`.  A path with a NUL byte is refused without a
system call. -/
def readToString (path : Bytes) : FileProgram (Except ErrorKind Str) :=
  if nul ∈ path then .done (.error .invalidInput)
  else
    .read path fun answer =>
      .done
        (match answer with
        | .error e => .error (errorKind e)
        | .ok contents =>
            match decodeUtf8 contents with
            | some text => .ok text
            | none => .error .invalidData)

/-- The environment of a process: its variables and their values, which are
strings of nonzero bytes. -/
structure Environment where
  varOs : String → Option Bytes
  nul_not_mem : ∀ {name value}, varOs name = some value → nul ∉ value

/-! ## The store -/

/-- `CREDENTIALS_DIR_ENV`. -/
def credentialsDirEnv : String :=
  "CREDENTIALS_DIRECTORY"

/-- `CRED_FILE_DIR_ENV`. -/
def credFileDirEnv : String :=
  "KDBX_CREDENTIALS_DIR"

/-- `DEFAULT_CRED_DIR`. -/
def defaultCredDir : Bytes :=
  utf8 "/etc/kdbx".toList

/-- The key has a single component, a normal one, and no NUL. -/
def isSafeCredentialId (key : Str) : Bool :=
  (match components (utf8 key) with
    | [.normal _] => true
    | _ => false) && !key.contains (Char.ofNat 0)

/-- The mapping of I/O errors in `read_from_dir`. -/
def mapReadError (key : Str) : ErrorKind → KdbxError
  | .notFound => .secretNotFound key
  | _ => .permissionDenied

/-- Read the credential `key` from an already-resolved credentials directory. -/
def readFromDir (dir : Bytes) (key : Str) : FileProgram (Except KdbxError Str) :=
  if !isSafeCredentialId key then .done (.error (.secretNotFound key))
  else
    (readToString (join dir (utf8 key))).map (Except.mapError (mapReadError key))

/-- A rejected key opens no file. -/
theorem readFromDir_of_rejected {key : Str} (dir : Bytes)
    (rejected : isSafeCredentialId key = false) :
    readFromDir dir key = .done (.error (.secretNotFound key)) := by
  rw [readFromDir, rejected]
  rfl

/-- An accepted key is read from the joined path. -/
theorem readFromDir_of_accepted {key : Str} (dir : Bytes)
    (accepted : isSafeCredentialId key = true) :
    readFromDir dir key =
      (readToString (join dir (utf8 key))).map (Except.mapError (mapReadError key)) := by
  rw [readFromDir, accepted]
  rfl

/-- Under systemd the credentials directory comes from systemd; otherwise it is
the file store, in its configured or its default place. -/
def getMasterPassword (env : Environment) (secretStoreKey : Str) :
    FileProgram (Except KdbxError Str) :=
  match env.varOs credentialsDirEnv with
  | some dir => readFromDir dir secretStoreKey
  | none =>
      let dir := (env.varOs credFileDirEnv).getD defaultCredDir
      readFromDir dir secretStoreKey

end KdbxCredentials.Rust
