import KdbxCredentials.CSharp.WindowsSecretStore
import KdbxCredentials.Rust.Error

/-!
# The Windows secret store of the Rust crate

`secret_store.rs` on Windows.  The `keyring` crate is a parameter; `Documented`
says how it reads the Credential Manager, given what `CredRead` answers.
-/

namespace KdbxCredentials.Rust

open KdbxCredentials.Text
open KdbxCredentials.CSharp (Credential)

/-! ## The `keyring` crate -/

/-- `keyring::Error`, by its variants. -/
inductive KeyringError
  | platformFailure
  | noStorageAccess
  | noEntry
  | badEncoding (bytes : Bytes)
  | tooLong
  | invalid
  | ambiguous
  deriving DecidableEq, Repr

/-- The part of `keyring` that the crate uses: `Entry::new_with_target` and
`Entry::get_password`. -/
structure Keyring where
  Entry : Type
  newWithTarget : Str → Str → Str → Except KeyringError Entry
  getPassword : Entry → Except KeyringError Str

/-- A password is stored as the code units of a text; other bytes have no
decoding. -/
def decodePassword (blob : Bytes) : Except KeyringError Str :=
  let text := spelled (codeUnits blob)
  if utf16 (spell text) = blob then .ok text else .error (.badEncoding blob)

/-- `ERROR_NO_SUCH_LOGON_SESSION`. -/
def errorNoSuchLogonSession : Int :=
  1312

/-- What `keyring` makes of the answer of `CredRead`. -/
def readPassword : Except Int Credential → Except KeyringError Str
  | .error error =>
      .error
        (if error = CSharp.WindowsSecretStore.errorNotFound then .noEntry
        else if error = errorNoSuchLogonSession then .noStorageAccess
        else .platformFailure)
  | .ok cred => decodePassword cred.blob

/-- The documented behaviour of `keyring` over a Credential Manager: an entry that it
makes is read under its target name, and a name that it refuses, as empty or as too
long in UTF-8, is not a missing entry. -/
structure Keyring.Documented (keyring : Keyring) (credRead : Str → Except Int Credential) :
    Prop where
  reads : ∀ target service user entry, keyring.newWithTarget target service user = .ok entry →
    keyring.getPassword entry = readPassword (credRead target)
  rejects : ∀ target service user error,
    keyring.newWithTarget target service user = .error error → error ≠ .noEntry

/-! ## The store -/

namespace WindowsSecretStore

/-- `ACCOUNT`. -/
def account : Str :=
  "kdbx-credentials".toList

/-- Map a `keyring` error onto the crate's errors. -/
def mapError (key : Str) : KeyringError → KdbxError
  | .noEntry => .secretNotFound key
  | _ => .permissionDenied

/-- Read the master password that is stored under the key as its target name. -/
def getMasterPassword (keyring : Keyring) (secretStoreKey : Str) : Except KdbxError Str := do
  let entry ← (keyring.newWithTarget secretStoreKey secretStoreKey account).mapError
    (mapError secretStoreKey)
  (keyring.getPassword entry).mapError (mapError secretStoreKey)

/-- `keyring` makes an entry for the key. -/
def Accepted (keyring : Keyring) (key : Str) : Prop :=
  ∃ entry, keyring.newWithTarget key key account = .ok entry

variable {keyring : Keyring} {credRead : Str → Except Int Credential} {key : Str}

/-- The master password is what `keyring` reads under the key. -/
theorem getMasterPassword_of_accepted (documented : keyring.Documented credRead)
    (accepted : Accepted keyring key) :
    getMasterPassword keyring key = (readPassword (credRead key)).mapError (mapError key) := by
  obtain ⟨entry, made⟩ := accepted
  rw [getMasterPassword, made, ← documented.reads key key account entry made]
  rfl

/-- A key that `keyring` refuses is not permitted. -/
theorem getMasterPassword_of_refused (documented : keyring.Documented credRead)
    (refused : ¬Accepted keyring key) :
    getMasterPassword keyring key = .error .permissionDenied := by
  rw [getMasterPassword]
  cases made : keyring.newWithTarget key key account with
  | ok entry => exact absurd ⟨entry, made⟩ refused
  | error error =>
      have other := documented.rejects key key account error made
      cases error with
      | noEntry => exact absurd rfl other
      | _ => rfl

end WindowsSecretStore

/-! ## The encoding -/

/-- The well-formed blobs are decoded, and no others. -/
theorem decodePassword_cases (blob : Bytes) :
    (WellFormedUtf16 blob ∧ ∃ text, decodePassword blob = .ok text ∧ codeUnits blob = spell text) ∨
      (¬WellFormedUtf16 blob ∧ decodePassword blob = .error (.badEncoding blob)) := by
  by_cases wellFormed : WellFormedUtf16 blob
  · have respelled := wellFormed.paired.spell_spelled
    left
    refine ⟨wellFormed, spelled (codeUnits blob), ?_, respelled.symm⟩
    rw [decodePassword, respelled]
    exact if_pos (utf16_codeUnits wellFormed.whole)
  · right
    refine ⟨wellFormed, ?_⟩
    rw [decodePassword]
    apply if_neg
    intro same
    apply wellFormed
    rw [← same]
    exact (paired_spell _).wellFormed_utf16

end KdbxCredentials.Rust
