import KdbxCredentials.CSharp.WindowsSecretStore

/-!
# Secrets of the Windows store

The Windows store decodes the stored bytes with replacement, where the Linux
store of the same library refuses bytes that are not text so as not to mangle a
password.  A secret is returned as it is stored exactly when the stored bytes
are well-formed UTF-16; any other blob is altered without notice.
-/

namespace KdbxCredentials.SecretStore

open KdbxCredentials.Text
open KdbxCredentials.CSharp
open KdbxCredentials.CSharp.WindowsSecretStore

/-- What the store returns for a key encodes to the stored blob. -/
def ReturnsVerbatim (credRead : Str → Except Int Credential) (key : Str) : Prop :=
  ∀ cred chars, credRead key = .ok cred →
    WindowsSecretStore.getMasterPassword credRead key = .ok chars → utf16 chars = cred.blob

variable {credRead credRead' : Str → Except Int Credential} {key key' : Str}
  {cred cred' : Credential} {chars : CodeUnits}

/-- A returned secret is the decoded blob. -/
theorem eq_decodeUtf16_of_returned (read : credRead key = .ok cred)
    (returned : WindowsSecretStore.getMasterPassword credRead key = .ok chars) :
    chars = decodeUtf16 cred.blob := by
  rw [getMasterPassword_of_ok read] at returned
  split_ifs at returned
  exact (Except.ok.inj returned).symm

/-- Well-formed blobs are told apart by their secrets. -/
theorem blob_eq_of_same_secret (read : credRead key = .ok cred) (read' : credRead' key' = .ok cred')
    (returned : WindowsSecretStore.getMasterPassword credRead key = .ok chars)
    (returned' : WindowsSecretStore.getMasterPassword credRead' key' = .ok chars)
    (wellFormed : WellFormedUtf16 cred.blob) (wellFormed' : WellFormedUtf16 cred'.blob) :
    cred.blob = cred'.blob := by
  rw [← (utf16_decodeUtf16_eq_iff cred.blob).mpr wellFormed,
    ← eq_decodeUtf16_of_returned read returned, eq_decodeUtf16_of_returned read' returned',
    (utf16_decodeUtf16_eq_iff cred'.blob).mpr wellFormed']

/-- The store returns what is stored, if it returns at all, exactly when the blob
is well-formed UTF-16 or too large to be read. -/
theorem returnsVerbatim_iff_wellFormed (credRead : Str → Except Int Credential) (key : Str) :
    (ReturnsVerbatim credRead key ↔
      ∀ cred, credRead key = .ok cred →
        WellFormedUtf16 cred.blob ∨ 2 ^ 31 ≤ cred.blob.length) ∧
      ∀ credRead' key' cred cred' chars,
        credRead key = .ok cred → credRead' key' = .ok cred' →
        WindowsSecretStore.getMasterPassword credRead key = .ok chars →
        WindowsSecretStore.getMasterPassword credRead' key' = .ok chars →
        WellFormedUtf16 cred.blob → WellFormedUtf16 cred'.blob → cred.blob = cred'.blob := by
  constructor
  · constructor
    · intro verbatim cred read
      by_cases inRange : cred.blob.length < 2 ^ 31
      · have returned := getMasterPassword_of_ok read
        rw [if_pos inRange] at returned
        have same := verbatim cred _ read returned
        exact Or.inl ((utf16_decodeUtf16_eq_iff cred.blob).mp same)
      · exact Or.inr (Nat.le_of_not_lt inRange)
    · intro condition cred chars read returned
      rcases condition cred read with wellFormed | large
      · rw [eq_decodeUtf16_of_returned read returned]
        exact (utf16_decodeUtf16_eq_iff cred.blob).mpr wellFormed
      · rw [getMasterPassword_of_ok read, if_neg (Nat.not_lt_of_le large)] at returned
        contradiction
  · intro credRead' key' cred cred' chars
    exact blob_eq_of_same_secret

/-! ## A blob that is not UTF-16 -/

/-- A store with one blob under every key. -/
def oneByteStore (byte : UInt8) : Str → Except Int Credential :=
  fun _ => .ok ⟨1, some [byte], fun memory stored => by cases stored; rfl⟩

/-- The one-byte passwords `a` and `b` of another encoding are both returned as
U+FFFD. -/
theorem oneByteStore_not_returnsVerbatim :
    ¬ReturnsVerbatim (oneByteStore 0x61) "kdbx".toList ∧
      WindowsSecretStore.getMasterPassword (oneByteStore 0x61) "kdbx".toList =
        WindowsSecretStore.getMasterPassword (oneByteStore 0x62) "kdbx".toList := by
  constructor
  · intro verbatim
    have returned : WindowsSecretStore.getMasterPassword (oneByteStore 0x61) "kdbx".toList =
        .ok [0xFFFD] := by decide
    exact absurd (verbatim _ _ rfl returned) (by decide)
  · decide

end KdbxCredentials.SecretStore
