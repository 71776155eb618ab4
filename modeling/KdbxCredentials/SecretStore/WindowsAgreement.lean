import KdbxCredentials.Provisioning.ReadBack
import KdbxCredentials.Rust.WindowsSecretStore
import KdbxCredentials.SecretStore.Verbatim

/-!
# The two Windows stores

Both libraries read the same credential.  The Rust crate refuses a blob that is no
text, where the C# library replaces what it cannot decode and hands it over; for
well-formed blobs they return the same text, unless the key is one that `keyring`
refuses.  What the provisioning script stores is well-formed, so that both libraries
read it back.
-/

namespace KdbxCredentials.SecretStore

open KdbxCredentials.Text
open KdbxCredentials.Effects
open KdbxCredentials.Rust (KdbxError Keyring KeyringError readPassword decodePassword_cases)
open KdbxCredentials.Rust.WindowsSecretStore (Accepted getMasterPassword_of_accepted
  getMasterPassword_of_refused)
open KdbxCredentials.CSharp (Credential SystemException Thrown)
open KdbxCredentials.Provisioning

/-- Outcomes that correspond: a secret and its code units, or failures of one kind. -/
inductive SameWindowsSecret : Except KdbxError Str → Except Thrown CodeUnits → Prop
  | ok (secret : Str) : SameWindowsSecret (.ok secret) (.ok (spell secret))
  | secretNotFound (key : Str) :
      SameWindowsSecret (.error (.secretNotFound key)) (.error (.kdbx (.secretNotFound key)))
  | permissionDenied (message : String) (inner : Option SystemException) :
      SameWindowsSecret (.error .permissionDenied)
        (.error (.kdbx (.permissionDenied message inner)))

variable {keyring : Keyring} {credRead : Str → Except Int Credential} {key : Str}

/-- Every failure of `CredRead` other than a missing credential is a lack of permission
to both. -/
theorem permissionDenied_of_error {error : Int} (failed : credRead key = .error error)
    (other : error ≠ CSharp.WindowsSecretStore.errorNotFound) :
    (readPassword (credRead key)).mapError (Rust.WindowsSecretStore.mapError key) =
        .error .permissionDenied ∧
      ∃ message inner, CSharp.WindowsSecretStore.getMasterPassword credRead key =
        .error (.kdbx (.permissionDenied message inner)) := by
  constructor
  · rw [failed, readPassword, if_neg other]
    split_ifs <;> rfl
  · rw [CSharp.WindowsSecretStore.getMasterPassword, failed]
    dsimp only
    rw [CSharp.WindowsSecretStore.mapWin32Error, if_neg other]
    split_ifs
    · exact ⟨_, _, rfl⟩
    · exact ⟨_, _, rfl⟩

/-- Every failure of `CredRead` is reported alike. -/
theorem sameWindowsSecret_of_error (documented : keyring.Documented credRead)
    (accepted : Accepted keyring key) {error : Int} (failed : credRead key = .error error) :
    SameWindowsSecret (Rust.WindowsSecretStore.getMasterPassword keyring key)
      (CSharp.WindowsSecretStore.getMasterPassword credRead key) := by
  rw [getMasterPassword_of_accepted documented accepted]
  by_cases notFound : error = CSharp.WindowsSecretStore.errorNotFound
  · rw [CSharp.WindowsSecretStore.getMasterPassword, failed, readPassword, if_pos notFound]
    dsimp only
    rw [CSharp.WindowsSecretStore.mapWin32Error, if_pos notFound]
    exact SameWindowsSecret.secretNotFound key
  · obtain ⟨rust, message, inner, csharp⟩ := permissionDenied_of_error failed notFound
    rw [rust, csharp]
    exact SameWindowsSecret.permissionDenied message inner

/-- A credential is read alike when its blob is a text of less than 2 GiB. -/
theorem sameWindowsSecret_of_ok_iff (documented : keyring.Documented credRead)
    (accepted : Accepted keyring key) {cred : Credential} (read : credRead key = .ok cred) :
    SameWindowsSecret (Rust.WindowsSecretStore.getMasterPassword keyring key)
        (CSharp.WindowsSecretStore.getMasterPassword credRead key) ↔
      WellFormedUtf16 cred.blob ∧ cred.blob.length < 2 ^ 31 := by
  rw [getMasterPassword_of_accepted documented accepted,
    CSharp.WindowsSecretStore.getMasterPassword_of_ok read, read, readPassword]
  rcases decodePassword_cases cred.blob with
    ⟨wellFormed, text, decoded, units⟩ | ⟨illFormed, decoded⟩
  · rw [decoded, wellFormed.decodeUtf16_eq, units, and_iff_right wellFormed]
    by_cases inRange : cred.blob.length < 2 ^ 31
    · rw [if_pos inRange]
      exact iff_of_true (SameWindowsSecret.ok text) inRange
    · rw [if_neg inRange]
      apply iff_of_false _ inRange
      rintro ⟨⟩
  · rw [decoded]
    apply iff_of_false
    · by_cases inRange : cred.blob.length < 2 ^ 31
      · rw [if_pos inRange]
        rintro ⟨⟩
      · rw [if_neg inRange]
        rintro ⟨⟩
    · exact fun decodable => illFormed decodable.1

/-- On a key that `keyring` refuses the stores agree when `CredRead` fails as well, and
not because there is no credential. -/
theorem sameWindowsSecret_of_refused_iff (documented : keyring.Documented credRead)
    (refused : ¬Accepted keyring key) :
    SameWindowsSecret (Rust.WindowsSecretStore.getMasterPassword keyring key)
        (CSharp.WindowsSecretStore.getMasterPassword credRead key) ↔
      ∃ error, credRead key = .error error ∧
        error ≠ CSharp.WindowsSecretStore.errorNotFound := by
  rw [getMasterPassword_of_refused documented refused]
  cases read : credRead key with
  | ok cred =>
      rw [CSharp.WindowsSecretStore.getMasterPassword_of_ok read]
      apply iff_of_false
      · split_ifs <;> rintro ⟨⟩
      · rintro ⟨_, ⟨⟩, _⟩
  | error error =>
      by_cases notFound : error = CSharp.WindowsSecretStore.errorNotFound
      · apply iff_of_false
        · rw [CSharp.WindowsSecretStore.getMasterPassword, read]
          dsimp only
          rw [CSharp.WindowsSecretStore.mapWin32Error, if_pos notFound]
          rintro ⟨⟩
        · rintro ⟨_, ⟨⟩, other⟩
          exact other notFound
      · obtain ⟨_, message, inner, csharp⟩ := permissionDenied_of_error read notFound
        rw [csharp]
        exact iff_of_true (SameWindowsSecret.permissionDenied message inner)
          ⟨error, rfl, notFound⟩

/-- The two stores agree on a key that `keyring` accepts exactly when its credential, if
there is one, holds a text of less than 2 GiB; on another key they agree exactly when
both lack the permission. -/
theorem sameWindowsSecret_iff (documented : keyring.Documented credRead) :
    SameWindowsSecret (Rust.WindowsSecretStore.getMasterPassword keyring key)
        (CSharp.WindowsSecretStore.getMasterPassword credRead key) ↔
      (Accepted keyring key ∧ ∀ cred, credRead key = .ok cred →
        WellFormedUtf16 cred.blob ∧ cred.blob.length < 2 ^ 31) ∨
      ¬Accepted keyring key ∧ ∃ error, credRead key = .error error ∧
        error ≠ CSharp.WindowsSecretStore.errorNotFound := by
  by_cases accepted : Accepted keyring key
  · rw [and_iff_right accepted, or_iff_left fun both => both.1 accepted]
    cases read : credRead key with
    | error error =>
        exact iff_of_true (sameWindowsSecret_of_error documented accepted read) nofun
    | ok cred =>
        rw [sameWindowsSecret_of_ok_iff documented accepted read]
        constructor
        · rintro decodable _ ⟨⟩
          exact decodable
        · exact fun decodable => decodable cred rfl
  · rw [and_iff_right accepted, or_iff_right fun both => accepted both.1]
    exact sameWindowsSecret_of_refused_iff documented accepted

/-! ## Provisioned passwords -/

/-- What corresponds to returned code units is a text that they spell. -/
theorem SameWindowsSecret.eq_ok {result : Except KdbxError Str} {units : CodeUnits}
    (same : SameWindowsSecret result (.ok units)) :
    ∃ secret, result = .ok secret ∧ units = spell secret := by
  cases same with
  | ok secret => exact ⟨secret, rfl, rfl⟩

/-- A run of the script that exits with 0 has provisioned the password of the file
for both libraries, where `keyring` accepts the key. -/
theorem script_provisions_both {p : Parameters} {s : Surroundings} {file : Option Bytes}
    {vault : Vault} (script_documented : CmdkeyDocumented s) (literal : LiteralArguments p s file)
    (documented : keyring.Documented
      (Provisioning.credRead (exec (script p s) (.fresh file vault)).2.vault))
    (accepted : Accepted keyring p.key) :
    exitCode (exec (script p s) (.fresh file vault)).1 = 0 →
      ∃ pw, Found s (.fresh file vault) pw ∧
        Rust.WindowsSecretStore.getMasterPassword keyring p.key = .ok pw ∧
        CSharp.WindowsSecretStore.getMasterPassword
            (Provisioning.credRead (exec (script p s) (.fresh file vault)).2.vault) p.key =
          .ok (spell pw) := by
  intro succeeded
  obtain ⟨pw, found, stores⟩ := stores_of_exitCode_eq_zero script_documented literal succeeded
  refine ⟨pw, found, ?_, stores.returned⟩
  obtain ⟨stored, there, _, encoded⟩ := stores.stored
  have blob_eq : stored.credential.blob = utf16 (spell pw) := encoded
  have fits := stored.fits
  rw [encoded] at fits
  have bound : maxBlobSize = 2560 := rfl
  have readable : WellFormedUtf16 stored.credential.blob ∧
      stored.credential.blob.length < 2 ^ 31 := by
    rw [blob_eq]
    exact ⟨(paired_spell pw).wellFormed_utf16, by omega⟩
  have same := (sameWindowsSecret_of_ok_iff documented accepted
    (credRead_of_stored there)).mpr readable
  rw [stores.returned] at same
  obtain ⟨secret, rust, spelled_eq⟩ := same.eq_ok
  have pw_eq : pw = secret := by
    rw [← spelled_spell pw, spelled_eq, spelled_spell]
  rw [rust, pw_eq]

/-! ## A Credential Manager -/

/-- A target name that is neither empty nor too long. -/
def validTarget (target : Str) : Except KeyringError Str :=
  if target = [] then .error .invalid
  else if (utf8 target).length > 32767 then .error .tooLong
  else .ok target

/-- A `keyring` over the answers of `CredRead`. -/
def keyringOver (credRead : Str → Except Int Credential) : Keyring where
  Entry := Str
  newWithTarget target _ _ := validTarget target
  getPassword target := readPassword (credRead target)

theorem documented_keyringOver (credRead : Str → Except Int Credential) :
    (keyringOver credRead).Documented credRead where
  reads target _ _ entry made := by
    change validTarget target = .ok entry at made
    rw [validTarget] at made
    split_ifs at made
    cases made
    rfl
  rejects target _ _ error failed := by
    change validTarget target = .error error at failed
    rw [validTarget] at failed
    split_ifs at failed
    · cases failed
      decide
    · cases failed
      decide

theorem sameWindowsSecret_iff_oneByteStore :
    SameWindowsSecret
        (Rust.WindowsSecretStore.getMasterPassword (keyringOver (oneByteStore 65)) "k".toList)
        (CSharp.WindowsSecretStore.getMasterPassword (oneByteStore 65) "k".toList) ↔
      (Accepted (keyringOver (oneByteStore 65)) "k".toList ∧
        ∀ cred, oneByteStore 65 "k".toList = .ok cred →
          WellFormedUtf16 cred.blob ∧ cred.blob.length < 2 ^ 31) ∨
      ¬Accepted (keyringOver (oneByteStore 65)) "k".toList ∧
        ∃ error, oneByteStore 65 "k".toList = .error error ∧
          error ≠ CSharp.WindowsSecretStore.errorNotFound :=
  sameWindowsSecret_iff (documented_keyringOver _)

/-- The credentials after a run of the script with its default parameters. -/
def provisionedCredRead : Str → Except Int Credential :=
  Provisioning.credRead (exec (script defaultParameters quietSurroundings)
    (.fresh (some (utf8 "p@ss".toList)) fun _ => none)).2.vault

theorem script_provisions_both_default :
    ∃ pw, Found quietSurroundings (.fresh (some (utf8 "p@ss".toList)) fun _ => none) pw ∧
      Rust.WindowsSecretStore.getMasterPassword (keyringOver provisionedCredRead)
          defaultParameters.key = .ok pw ∧
      CSharp.WindowsSecretStore.getMasterPassword provisionedCredRead defaultParameters.key =
        .ok (spell pw) := by
  have valid : validTarget defaultParameters.key = .ok defaultParameters.key := by decide
  have accepted : Accepted (keyringOver provisionedCredRead) defaultParameters.key := ⟨_, valid⟩
  exact script_provisions_both cmdkeyDocumented_quiet literalArguments_default
    (documented_keyringOver _) accepted (by rfl)

end KdbxCredentials.SecretStore
