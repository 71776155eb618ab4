import KdbxCredentials.CSharp.Exception
import KdbxCredentials.Text.Utf16

/-!
# The Windows secret store of the C# library

`WindowsSecretStore.GetMasterPassword`, given what `CredRead` answers: a Win32
error or a credential.  A secret is returned as a character array, whose
characters are UTF-16 code units.
-/

namespace KdbxCredentials.CSharp

open KdbxCredentials.Text

/-- The fields of a `CREDENTIAL` that are read.  A pointer stands for the memory
it points to, which is as long as the size field says. -/
structure Credential where
  credentialBlobSize : UInt32
  credentialBlob : Option Bytes
  sized : ∀ memory, credentialBlob = some memory → memory.length = credentialBlobSize.toNat

/-- The stored bytes; a null pointer stores none. -/
def Credential.blob (cred : Credential) : Bytes :=
  cred.credentialBlob.getD []

namespace WindowsSecretStore

def errorNotFound : Int :=
  1168

def errorAccessDenied : Int :=
  5

/-- The exception for a Win32 error of `CredRead`. -/
def mapWin32Error (secretStoreKey : Str) (error : Int) : KdbxException :=
  if error = errorNotFound then .secretNotFound secretStoreKey
  else if error = errorAccessDenied then
    .permissionDenied "permission denied querying Windows Credential Manager" none
  else .permissionDenied ("failed to read credential (Win32 error " ++ toString error ++ ")") none

/-- What `new byte[byteCount]` throws for a negative count. -/
def overflowException : SystemException :=
  .other "Arithmetic operation resulted in an overflow.".toList

/-- Read the master password stored under a key. -/
def getMasterPassword (credRead : Str → Except Int Credential) (secretStoreKey : Str) :
    Except Thrown CodeUnits :=
  match credRead secretStoreKey with
  | .error error => .error (.kdbx (mapWin32Error secretStoreKey error))
  | .ok cred =>
      -- The unchecked cast from `uint` to `int` wraps around.
      let byteCount := cred.credentialBlobSize.toInt32.toInt
      if byteCount = 0 ∨ cred.credentialBlob = none then .ok []
      else if byteCount < 0 then .error (.system overflowException)
      else .ok (decodeUtf16 (cred.blob.take byteCount.toNat))

/-- A size in range is its own byte count, and any other one is negative. -/
theorem byteCount_eq (size : UInt32) :
    size.toInt32.toInt =
      if size.toNat < 2 ^ 31 then (size.toNat : Int) else (size.toNat : Int) - 2 ^ 32 := by
  change size.toBitVec.toInt = _
  rw [BitVec.toInt_eq_toNat_cond]
  change (if 2 * size.toNat < 2 ^ 32 then _ else _) = _
  split_ifs
  · rfl
  · omega
  · omega
  · rfl

/-- A credential that is read is decoded, unless it has 2 GiB or more. -/
theorem getMasterPassword_of_ok {credRead : Str → Except Int Credential} {key : Str}
    {cred : Credential} (read : credRead key = .ok cred) :
    getMasterPassword credRead key =
      if cred.blob.length < 2 ^ 31 then .ok (decodeUtf16 cred.blob)
      else .error (.system overflowException) := by
  rw [getMasterPassword, read]
  dsimp only
  cases pointer : cred.credentialBlob with
  | none =>
      have blob_eq : cred.blob = [] := by rw [Credential.blob, pointer, Option.getD_none]
      rw [if_pos (Or.inr rfl), blob_eq]
      rfl
  | some memory =>
      have blob_eq : cred.blob = memory := by rw [Credential.blob, pointer, Option.getD_some]
      have length_eq := cred.sized memory pointer
      rw [blob_eq, length_eq, byteCount_eq]
      by_cases inRange : cred.credentialBlobSize.toNat < 2 ^ 31
      · rw [if_pos inRange, if_pos inRange]
        by_cases empty : cred.credentialBlobSize.toNat = 0
        · have memory_eq : memory = [] := List.eq_nil_of_length_eq_zero (length_eq.trans empty)
          rw [if_pos (Or.inl (by omega)), memory_eq]
          rfl
        · rw [if_neg (by simpa using empty), if_neg (by omega), Int.toNat_natCast, ← length_eq,
            List.take_length]
      · have bound := cred.credentialBlobSize.toNat_lt
        have negative : (cred.credentialBlobSize.toNat : Int) - 2 ^ 32 < 0 := by omega
        have nonzero : ¬((cred.credentialBlobSize.toNat : Int) - 2 ^ 32 = 0 ∨
            some memory = none) := by
          rintro (zero | null)
          · omega
          · contradiction
        rw [if_neg inRange, if_neg inRange, if_neg nonzero, if_pos negative]

end WindowsSecretStore

end KdbxCredentials.CSharp
