import KdbxCredentials.CSharp.Exception
import KdbxCredentials.CSharp.FullPath
import KdbxCredentials.Posix.Program

/-!
# The Linux secret store of the C# library

`LinuxSecretStore.ReadFromDir` with the file and path methods it calls.  Paths
are strings and reach the system in UTF-8, as their full paths: a program of this
store runs against `readFull`.  The characters that are returned stand for the text
they spell.
-/

namespace KdbxCredentials.CSharp

open KdbxCredentials.Text
open KdbxCredentials.Posix

/-! ## .NET -/

/-- `Path.Combine` on Unix. -/
def combine (path1 path2 : Str) : Str :=
  if path1 = [] then path2
  else if path2 = [] then path1
  else if path2.head? = some '/' then path2
  else if path1.getLast? = some '/' then path1 ++ path2
  else path1 ++ '/' :: path2

/-- `File.ReadAllBytes`.  The read is answered at the full path of its path. -/
def readAllBytes (path : Str) : FileProgram (Except SystemException Bytes) :=
  if path = [] ∨ Char.ofNat 0 ∈ path then .done (.error .argument)
  else .read (utf8 path) fun answer => .done (answer.mapError ioException)

/-! ## The store -/

/-- A single path component: no separators, no NUL, neither `.` nor `..`. -/
def isSafeCredentialId (key : Str) : Bool :=
  decide (key.length > 0) && key != ".".toList && key != "..".toList && !key.contains '/' &&
    !key.contains '\\' && !key.contains (Char.ofNat 0)

/-- The `catch` clauses around the read. -/
def mapReadException (key : Str) : SystemException → Thrown
  | .fileNotFound => .kdbx (.secretNotFound key)
  | .directoryNotFound => .kdbx (.secretNotFound key)
  | .unauthorizedAccess =>
      .kdbx (.permissionDenied "permission denied reading the systemd credential"
        (some .unauthorizedAccess))
  | .io => .kdbx (.permissionDenied "could not read the systemd credential" (some .io))
  | exception => .system exception

/-- Strict decoding of the stored bytes. -/
def decodeSecret (bytes : Bytes) : Except Thrown Str :=
  match decodeUtf8 bytes with
  | some chars => .ok chars
  | none =>
      .error (.kdbx (.permissionDenied "the stored credential is not valid UTF-8"
        (some .decoderFallback)))

/-- Read the credential `key` from an already-resolved credentials directory. -/
def readFromDir (dir key : Str) : FileProgram (Except Thrown Str) :=
  if !isSafeCredentialId key then .done (.error (.kdbx (.secretNotFound key)))
  else
    (readAllBytes (combine dir key)).map fun answer => do
      let bytes ← answer.mapError (mapReadException key)
      decodeSecret bytes

/-- The environment of a process as .NET presents it: its variables and their
values, which are strings without NUL. -/
structure Environment where
  getEnvironmentVariable : String → Option Str
  nul_not_mem : ∀ {name value}, getEnvironmentVariable name = some value → Char.ofNat 0 ∉ value

namespace LinuxSecretStore

/-- `CredentialsDirEnv`. -/
def credentialsDirEnv : String :=
  "CREDENTIALS_DIRECTORY"

/-- The exception without a credentials directory. -/
def notUnderSystemd : Thrown :=
  .kdbx (.permissionDenied (credentialsDirEnv ++
    " is not set — not running under a systemd unit with credentials") none)

/-- Read the credential from the directory that systemd names; without a
nonempty one the store is unavailable. -/
def getMasterPassword (env : Environment) (secretStoreKey : Str) :
    FileProgram (Except Thrown Str) :=
  match env.getEnvironmentVariable credentialsDirEnv with
  | none => .done (.error notUnderSystemd)
  | some dir =>
      if dir = [] then .done (.error notUnderSystemd)
      else readFromDir dir secretStoreKey

end LinuxSecretStore

/-- A rejected key opens no file. -/
theorem readFromDir_of_rejected {key : Str} (dir : Str)
    (rejected : isSafeCredentialId key = false) :
    readFromDir dir key = .done (.error (.kdbx (.secretNotFound key))) := by
  rw [readFromDir, rejected]
  rfl

/-- An accepted key is read from the combined path. -/
theorem readFromDir_of_accepted {key : Str} (dir : Str)
    (accepted : isSafeCredentialId key = true) :
    readFromDir dir key =
      (readAllBytes (combine dir key)).map fun answer =>
        answer.mapError (mapReadException key) >>= decodeSecret := by
  rw [readFromDir, accepted]
  rfl

end KdbxCredentials.CSharp
