import KdbxCredentials.CSharp.OpenCalls
import KdbxCredentials.CSharp.WindowsSecretStore
import KdbxCredentials.Effects.Heap

/-!
# The memory of the C# library

`Database.Open` and the two secret stores over the objects that hold a copy of
the master password: the arrays and strings of .NET and the credentials that
Windows allocates.  `Array.Clear` and `CredFree` are updates of an object, and
each `finally` is a cleanup.
-/

namespace KdbxCredentials.CSharp

open KdbxCredentials.Text
open KdbxCredentials.Effects
open KdbxCredentials.Posix

/-- The objects that hold a secret.  A credential counts how often it has been
freed. -/
inductive Object
  | byteArray (bytes : Bytes)
  | charArray (chars : CodeUnits)
  | string (chars : CodeUnits)
  | credential (cred : Credential) (frees : Nat)

namespace Object

def bytes : Object → Bytes
  | byteArray bytes => bytes
  | _ => []

def chars : Object → CodeUnits
  | charArray chars => chars
  | string chars => chars
  | _ => []

/-- The object after `Array.Clear`. -/
def cleared : Object → Object
  | byteArray bytes => byteArray (bytes.map fun _ => 0)
  | charArray chars => charArray (chars.map fun _ => 0)
  | object => object

/-- The object after `CredFree`. -/
def freed : Object → Object
  | credential cred frees => credential cred (frees + 1)
  | object => object

/-- The object after its first bytes have been overwritten. -/
def overwritten (bytes : Bytes) : Object → Object
  | byteArray old => byteArray (bytes ++ old.drop bytes.length)
  | object => object

end Object

/-- Code that allocates objects. -/
abbrev Managed (ε : Type) : Type → Type :=
  Action (Heap Object) ε

variable {ε : Type}

/-! ## .NET and Windows -/

def arrayClear (ref : Nat) : Managed ε PUnit :=
  update ref Object.cleared

def credFree (ref : Nat) : Managed ε PUnit :=
  update ref Object.freed

/-- The contents of a byte array. -/
def bytesAt (ref : Nat) : Managed ε Bytes :=
  view Object.bytes [] ref

/-- The contents of a character array or of a string. -/
def charsAt (ref : Nat) : Managed ε CodeUnits :=
  view Object.chars [] ref

/-- What reading freed memory comes to. -/
def accessViolation : Thrown :=
  .system (.other "Attempted to read or write protected memory.".toList)

/-- The credential behind a pointer, unless it has been freed. -/
def credentialAt (ref : Nat) : Managed Thrown Credential := do
  let object ← load ref
  match object with
  | some (.credential cred 0) => return cred
  | _ => throw accessViolation

/-- `new byte[length]`. -/
def newBytes (length : Int) : Managed Thrown Nat :=
  if length < 0 then throw (.system WindowsSecretStore.overflowException)
  else alloc (.byteArray (List.replicate length.toNat 0))

/-- `Marshal.Copy` from the blob of a credential to the start of a byte array. -/
def marshalCopy (credPtr destination : Nat) (length : Nat) : Managed Thrown PUnit := do
  let cred ← credentialAt credPtr
  update destination (Object.overwritten (cred.blob.take length))

/-- `new string(value)`. -/
def newString (value : Nat) : Managed ε Nat := do
  let chars ← charsAt value
  alloc (.string chars)

/-! ## The stores -/

/-- The Win32 call, which allocates the credential that it returns. -/
def credReadInto (credRead : Str → Except Int Credential) (target : Str) :
    Managed Int Nat := do
  let cred ← ofExcept (credRead target)
  alloc (.credential cred 0)

/-- `WindowsSecretStore.GetMasterPassword`. -/
def WindowsSecretStore.getMasterPasswordInto (credRead : Str → Except Int Credential)
    (secretStoreKey : Str) : Managed Thrown Nat := do
  let credPtr ← mapError
    (fun error => .kdbx (WindowsSecretStore.mapWin32Error secretStoreKey error))
    (credReadInto credRead secretStoreKey)
  tryFinally
    (do
      let cred ← credentialAt credPtr
      let byteCount := cred.credentialBlobSize.toInt32.toInt
      if byteCount = 0 ∨ cred.credentialBlob = none then
        alloc (.charArray [])
      else
        let blob ← newBytes byteCount
        marshalCopy credPtr blob byteCount.toNat
        tryFinally
          (do
            let bytes ← bytesAt blob
            alloc (.charArray (decodeUtf16 bytes)))
          (arrayClear blob))
    (credFree credPtr)

/-- `File.ReadAllBytes`, with the answers of one file system. -/
def readAllBytesInto (fs : Bytes → Except Errno Bytes) (path : Str) :
    Managed SystemException Nat := do
  let bytes ← ofExcept ((readAllBytes path).run fs)
  alloc (.byteArray bytes)

/-- `LinuxSecretStore.ReadFromDir`. -/
def readFromDirInto (fs : Bytes → Except Errno Bytes) (dir key : Str) : Managed Thrown Nat := do
  if !isSafeCredentialId key then
    throw (.kdbx (.secretNotFound key))
  let bytes ← mapError (mapReadException key) (readAllBytesInto fs (combine dir key))
  tryFinally
    (do
      let contents ← bytesAt bytes
      let chars ← ofExcept (decodeSecret contents)
      alloc (.charArray (spell chars)))
    (arrayClear bytes)

/-- `LinuxSecretStore.GetMasterPassword`. -/
def LinuxSecretStore.getMasterPasswordInto (fs : Bytes → Except Errno Bytes) (env : Environment)
    (secretStoreKey : Str) : Managed Thrown Nat :=
  match env.getEnvironmentVariable credentialsDirEnv with
  | none => throw notUnderSystemd
  | some dir =>
      if dir = [] then throw notUnderSystemd
      else readFromDirInto fs dir secretStoreKey

/-- The platforms that the factory tells apart. -/
inductive OSPlatform
  | windows
  | linux
  | other
  deriving DecidableEq, Repr

/-- What a process gets from its system. -/
structure Host where
  platform : OSPlatform
  credRead : Str → Except Int Credential
  env : Environment
  files : Bytes → Except Errno Bytes

/-- `PlatformNotSupportedException`. -/
def platformNotSupported : SystemException :=
  .other "Only Windows and Linux are supported.".toList

/-- `SecretStoreFactory.Create`, as the method of the store it selects. -/
def SecretStoreFactory.create (host : Host) : Except Thrown (Str → Managed Thrown Nat) :=
  match host.platform with
  | .windows => .ok (WindowsSecretStore.getMasterPasswordInto host.credRead)
  | .linux => .ok (LinuxSecretStore.getMasterPasswordInto host.files host.env)
  | .other => .error (.system platformNotSupported)

/-- `Database.Open`, given what opening with a password comes to. -/
def Database.openInto (host : Host) (openWithPassword : CodeUnits → Except Thrown Database)
    (secretStoreKey : Str) : Managed Thrown Database := do
  let getMasterPassword ← ofExcept (SecretStoreFactory.create host)
  let master ← getMasterPassword secretStoreKey
  tryFinally
    (do
      let password ← newString master
      let chars ← charsAt password
      ofExcept (openWithPassword chars))
    (arrayClear master)

/-! ## Without memory -/

/-- The master password on a host. -/
def Host.getMasterPassword (host : Host) (secretStoreKey : Str) : Except Thrown CodeUnits :=
  match host.platform with
  | .windows => WindowsSecretStore.getMasterPassword host.credRead secretStoreKey
  | .linux =>
      ((LinuxSecretStore.getMasterPassword host.env secretStoreKey).run host.files).map spell
  | .other => .error (.system platformNotSupported)

/-- `Database.Open` on a host. -/
def Host.open (host : Host) (openWithPassword : CodeUnits → Except Thrown Database)
    (secretStoreKey : Str) : Except Thrown Database := do
  let master ← host.getMasterPassword secretStoreKey
  openWithPassword master

end KdbxCredentials.CSharp
