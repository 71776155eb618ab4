import KdbxCredentials.CSharp.Memory

/-!
# Opening leaves no secret behind

Every array that `Database.Open` or a secret store of the C# library fills with
the master password is zeroed and every credential that Windows allocates is
freed once, however `Open` ends.  The strings that are made of the password
cannot be cleared.
-/

namespace KdbxCredentials.SecretStore

open KdbxCredentials.Text
open KdbxCredentials.Effects
open KdbxCredentials.Posix
open KdbxCredentials.CSharp

/-- An object is done with: an array is zero and a credential has been freed, and
only once.  A string stays as it is. -/
def Wiped : Object → Prop
  | .byteArray bytes => ∀ byte ∈ bytes, byte = 0
  | .charArray chars => ∀ char ∈ chars, char = 0
  | .string _ => True
  | .credential _ frees => frees = 1

theorem wiped_cleared_byteArray (bytes : Bytes) : Wiped (Object.byteArray bytes).cleared := by
  intro byte member
  obtain ⟨_, _, rfl⟩ := List.mem_map.mp member
  rfl

theorem wiped_cleared_charArray (chars : CodeUnits) : Wiped (Object.charArray chars).cleared := by
  intro char member
  obtain ⟨_, _, rfl⟩ := List.mem_map.mp member
  rfl

theorem wiped_freed (cred : Credential) : Wiped (Object.credential cred 0).freed :=
  rfl

variable {owned : List (Nat × Object)} {ref : Nat}

/-- A credential that has not been freed can be read. -/
theorem ensures_credentialAt {cred : Credential} {R : Thrown → Heap Object → Prop}
    (member : (ref, .credential cred 0) ∈ owned) :
    Ensures (Owns Wiped owned) (credentialAt ref)
      (fun read heap => read = cred ∧ Owns Wiped owned heap) R := by
  apply (Ensures.load member).bind
  intro found
  apply Ensures.fact
  rintro rfl
  exact fun _ owns => ⟨rfl, owns⟩

/-! ## The stores -/

/-- From the given objects on, the action has the given result; it hands its secret
over in one array, and is left to wipe what is still owned. -/
def HandsOver (result : Except Thrown CodeUnits) (before after : List (Nat × Object))
    (action : Managed Thrown Nat) : Prop :=
  Ensures (Owns Wiped before) action
    (fun ref heap => ∃ chars, result = .ok chars ∧
      Owns Wiped ((ref, .charArray chars) :: after) heap)
    (fun thrown heap => result = .error thrown ∧ Owns Wiped after heap)

/-- Allocating a secret hands it over. -/
theorem handsOver_alloc (chars : CodeUnits) :
    HandsOver (.ok chars) owned owned (alloc (.charArray chars)) :=
  fun _ owns => ⟨chars, rfl, owns.alloc _⟩

theorem handsOver_throw (thrown : Thrown) :
    HandsOver (.error thrown) owned owned (throw thrown) :=
  fun _ owns => ⟨rfl, owns⟩

/-- A cleanup that wipes an object of the body hands the secret on. -/
theorem HandsOver.tryFinally {result : Except Thrown CodeUnits} {before : List (Nat × Object)}
    {object : Object} {f : Object → Object} {action : Managed Thrown Nat}
    (body : HandsOver result before ((ref, object) :: owned) action) (wiped : Wiped (f object)) :
    HandsOver result before owned (tryFinally action (update ref f)) := by
  apply Ensures.tryFinally body
  · intro master
    apply Ensures.ofExists
    intro chars
    apply Ensures.fact
    intro returned
    apply (Ensures.release_below wiped).weaken
    · exact fun _ owns => owns
    · exact fun _ _ owns => ⟨chars, returned, owns⟩
    · exact fun _ _ post => post
  · intro thrown
    apply Ensures.fact
    intro failed
    apply (Ensures.release wiped).weaken
    · exact fun _ owns => owns
    · exact fun _ _ owns => ⟨failed, owns⟩
    · exact fun _ _ post => post

/-- What is made of the contents of an owned byte array is handed over. -/
theorem handsOver_bytesAt {result : Except Thrown CodeUnits} {bytes : Bytes}
    {next : Bytes → Managed Thrown Nat} {after : List (Nat × Object)}
    (decoded : HandsOver result ((ref, .byteArray bytes) :: owned) after (next bytes)) :
    HandsOver result ((ref, .byteArray bytes) :: owned) after (bytesAt ref >>= next) := by
  apply (Ensures.view Object.bytes [] List.mem_cons_self).bind
  intro read
  apply Ensures.fact
  rintro rfl
  exact decoded

/-- A blob in range is copied, decoded and wiped. -/
theorem handsOver_copy (cred : Credential) {byteCount : Int} (nonneg : ¬byteCount < 0)
    (size : byteCount.toNat ≤ cred.blob.length) :
    HandsOver (.ok (decodeUtf16 (cred.blob.take byteCount.toNat)))
      ((ref, .credential cred 0) :: owned) ((ref, .credential cred 0) :: owned)
      (do
        let blob ← newBytes byteCount
        marshalCopy ref blob byteCount.toNat
        tryFinally
          (do
            let bytes ← bytesAt blob
            alloc (.charArray (decodeUtf16 bytes)))
          (arrayClear blob)) := by
  rw [newBytes, if_neg nonneg]
  apply (Ensures.alloc _).bind
  intro blob
  have filled : (Object.byteArray (List.replicate byteCount.toNat 0)).overwritten
      (cred.blob.take byteCount.toNat) = .byteArray (cred.blob.take byteCount.toNat) := by
    rw [Object.overwritten, List.length_take, Nat.min_eq_left size, List.drop_replicate,
      Nat.sub_self, List.replicate_zero, List.append_nil]
  have copied : Ensures
      (Owns Wiped ((blob, .byteArray (List.replicate byteCount.toNat 0)) ::
        (ref, .credential cred 0) :: owned))
      (marshalCopy ref blob byteCount.toNat)
      (fun _ => Owns Wiped ((blob, .byteArray (cred.blob.take byteCount.toNat)) ::
        (ref, .credential cred 0) :: owned))
      (fun thrown heap =>
        Except.ok (decodeUtf16 (cred.blob.take byteCount.toNat)) = Except.error thrown ∧
          Owns Wiped ((ref, .credential cred 0) :: owned) heap) := by
    apply (ensures_credentialAt (List.mem_cons_of_mem _ List.mem_cons_self)).bind
    intro read
    apply Ensures.fact
    rintro rfl
    rw [← filled]
    exact Ensures.update _
  apply copied.bind
  intro _
  exact (handsOver_bytesAt (handsOver_alloc _)).tryFinally (wiped_cleared_byteArray _)

/-- A byte count that is not negative is the length of the blob. -/
theorem toNat_byteCount {cred : Credential} (stored : cred.credentialBlob ≠ none)
    (nonneg : ¬cred.credentialBlobSize.toInt32.toInt < 0) :
    cred.credentialBlobSize.toInt32.toInt.toNat = cred.blob.length := by
  obtain ⟨memory, pointer⟩ := Option.ne_none_iff_exists'.mp stored
  have bound := cred.credentialBlobSize.toNat_lt
  rw [WindowsSecretStore.byteCount_eq] at nonneg ⊢
  rw [Credential.blob, pointer, Option.getD_some, cred.sized memory pointer]
  split_ifs at nonneg ⊢
  · exact Int.toNat_natCast _
  · omega

/-- What the Windows store does with a credential before it frees it. -/
theorem handsOver_fetch (cred : Credential) :
    HandsOver
      (let byteCount := cred.credentialBlobSize.toInt32.toInt
      if byteCount = 0 ∨ cred.credentialBlob = none then .ok []
      else if byteCount < 0 then .error (.system WindowsSecretStore.overflowException)
      else .ok (decodeUtf16 (cred.blob.take byteCount.toNat)))
      ((ref, .credential cred 0) :: owned) ((ref, .credential cred 0) :: owned)
      (do
        let cred ← credentialAt ref
        let byteCount := cred.credentialBlobSize.toInt32.toInt
        if byteCount = 0 ∨ cred.credentialBlob = none then
          alloc (.charArray [])
        else
          let blob ← newBytes byteCount
          marshalCopy ref blob byteCount.toNat
          tryFinally
            (do
              let bytes ← bytesAt blob
              alloc (.charArray (decodeUtf16 bytes)))
            (arrayClear blob)) := by
  apply (ensures_credentialAt List.mem_cons_self).bind
  intro read
  apply Ensures.fact
  rintro rfl
  dsimp only
  by_cases empty : read.credentialBlobSize.toInt32.toInt = 0 ∨ read.credentialBlob = none
  · rw [if_pos empty, if_pos empty]
    exact handsOver_alloc []
  · rw [if_neg empty, if_neg empty]
    by_cases negative : read.credentialBlobSize.toInt32.toInt < 0
    · rw [if_pos negative, newBytes, if_pos negative]
      exact fun _ owns => ⟨rfl, owns⟩
    · rw [if_neg negative]
      apply handsOver_copy read negative
      rw [toNat_byteCount (not_or.mp empty).2 negative]

theorem windows_handsOver (credRead : Str → Except Int Credential) (key : Str) :
    HandsOver (WindowsSecretStore.getMasterPassword credRead key) owned owned
      (WindowsSecretStore.getMasterPasswordInto credRead key) := by
  rw [WindowsSecretStore.getMasterPassword, WindowsSecretStore.getMasterPasswordInto, credReadInto]
  cases credRead key with
  | error error => exact fun _ owns => ⟨rfl, owns⟩
  | ok cred =>
      dsimp only
      apply Ensures.bind (Q := fun ref => Owns Wiped ((ref, .credential cred 0) :: owned))
      · exact fun _ owns => owns.alloc _
      intro credPtr
      exact HandsOver.tryFinally (handsOver_fetch cred) (wiped_freed cred)

theorem readFromDir_handsOver (fs : Bytes → Except Errno Bytes) (dir key : Str) :
    HandsOver (((CSharp.readFromDir dir key).run fs).map spell) owned owned
      (readFromDirInto fs dir key) := by
  rw [readFromDirInto]
  cases accepted : isSafeCredentialId key with
  | false =>
      rw [readFromDir_of_rejected dir accepted]
      exact handsOver_throw _
  | true =>
      rw [readFromDir_of_accepted dir accepted, FileProgram.run_map]
      change HandsOver _ owned owned (mapError _ (readAllBytesInto fs (combine dir key)) >>= _)
      rw [readAllBytesInto]
      cases (readAllBytes (combine dir key)).run fs with
      | error exception => exact fun _ owns => ⟨rfl, owns⟩
      | ok contents =>
          apply Ensures.bind (Q := fun ref => Owns Wiped ((ref, .byteArray contents) :: owned))
          · exact fun _ owns => owns.alloc _
          intro bytes
          apply HandsOver.tryFinally _ (wiped_cleared_byteArray contents)
          apply handsOver_bytesAt
          change HandsOver ((decodeSecret contents).map spell) _ _ _
          cases decodeSecret contents with
          | error thrown => exact handsOver_throw thrown
          | ok chars => exact handsOver_alloc (spell chars)

theorem linux_handsOver (fs : Bytes → Except Errno Bytes) (env : Environment) (key : Str) :
    HandsOver (((LinuxSecretStore.getMasterPassword env key).run fs).map spell) owned owned
      (LinuxSecretStore.getMasterPasswordInto fs env key) := by
  rw [LinuxSecretStore.getMasterPassword, LinuxSecretStore.getMasterPasswordInto]
  cases env.getEnvironmentVariable LinuxSecretStore.credentialsDirEnv with
  | none => exact handsOver_throw _
  | some dir =>
      dsimp only
      split_ifs with empty
      · exact handsOver_throw _
      · exact readFromDir_handsOver fs dir key

/-- Each store hands its secret over. -/
theorem create_handsOver (host : Host) {getMasterPassword : Str → Managed Thrown Nat}
    (created : SecretStoreFactory.create host = .ok getMasterPassword) (key : Str) :
    HandsOver (host.getMasterPassword key) owned owned (getMasterPassword key) := by
  rw [Host.getMasterPassword]
  rw [SecretStoreFactory.create] at created
  cases platform : host.platform with
  | windows =>
      rw [platform] at created
      cases created
      exact windows_handsOver host.credRead key
  | linux =>
      rw [platform] at created
      cases created
      exact linux_handsOver host.files host.env key
  | other =>
      rw [platform] at created
      cases created

/-! ## Opening -/

/-- The password is used and then wiped. -/
theorem ensures_use (chars : CodeUnits) (openWithPassword : CodeUnits → Except Thrown Database) :
    Ensures (Owns Wiped ((ref, .charArray chars) :: owned))
      (tryFinally
        (do
          let password ← newString ref
          let chars ← charsAt password
          ofExcept (openWithPassword chars))
        (arrayClear ref))
      (fun db heap => openWithPassword chars = .ok db ∧ Owns Wiped owned heap)
      (fun thrown heap => openWithPassword chars = .error thrown ∧ Owns Wiped owned heap) := by
  have used : Ensures (Owns Wiped ((ref, .charArray chars) :: owned))
      (do
        let password ← newString ref
        let chars ← charsAt password
        ofExcept (openWithPassword chars))
      (fun db heap => openWithPassword chars = .ok db ∧
        Owns Wiped ((ref, .charArray chars) :: owned) heap)
      (fun thrown heap => openWithPassword chars = .error thrown ∧
        Owns Wiped ((ref, .charArray chars) :: owned) heap) := by
    have copied : Ensures (Owns Wiped ((ref, .charArray chars) :: owned)) (newString ref)
        (fun password => Owns Wiped
          ((password, .string chars) :: (ref, .charArray chars) :: owned))
        (fun thrown heap => openWithPassword chars = .error thrown ∧
          Owns Wiped ((ref, .charArray chars) :: owned) heap) := by
      apply (Ensures.view Object.chars [] List.mem_cons_self).bind
      intro read
      apply Ensures.fact
      rintro rfl
      exact Ensures.alloc _
    apply copied.bind
    intro password
    apply (Ensures.view Object.chars [] List.mem_cons_self).bind
    intro read
    apply Ensures.fact
    rintro rfl
    apply (Ensures.ofExcept _).weaken
    · exact fun _ owns => owns.release trivial
    · exact fun _ _ post => post
    · exact fun _ _ post => post
  have wiped := wiped_cleared_charArray chars
  apply Ensures.tryFinally used
  · intro db
    apply Ensures.fact
    intro opened
    apply (Ensures.release wiped).weaken
    · exact fun _ owns => owns
    · exact fun _ _ owns => ⟨opened, owns⟩
    · exact fun _ _ post => post
  · intro thrown
    apply Ensures.fact
    intro failed
    apply (Ensures.release wiped).weaken
    · exact fun _ owns => owns
    · exact fun _ _ owns => ⟨failed, owns⟩
    · exact fun _ _ post => post

/-- `Open` has the result that it has without memory, and releases whatever it
allocates. -/
theorem ensures_openInto (owned : List (Nat × Object)) (host : Host)
    (openWithPassword : CodeUnits → Except Thrown Database) (key : Str) :
    Ensures (Owns Wiped owned) (Database.openInto host openWithPassword key)
      (fun db heap => host.open openWithPassword key = .ok db ∧ Owns Wiped owned heap)
      (fun thrown heap => host.open openWithPassword key = .error thrown ∧
        Owns Wiped owned heap) := by
  rw [Database.openInto, Host.open]
  cases created : SecretStoreFactory.create host with
  | error thrown =>
      have unsupported : host.getMasterPassword key = .error thrown := by
        rw [SecretStoreFactory.create] at created
        rw [Host.getMasterPassword]
        cases platform : host.platform <;> rw [platform] at created <;> cases created
        rfl
      rw [unsupported]
      exact fun _ owns => ⟨rfl, owns⟩
  | ok getMasterPassword =>
      have got : Ensures (Owns Wiped owned) (getMasterPassword key)
          (fun master heap => ∃ chars, host.getMasterPassword key = .ok chars ∧
            Owns Wiped ((master, .charArray chars) :: owned) heap)
          (fun thrown heap =>
            (host.getMasterPassword key >>= openWithPassword) = .error thrown ∧
              Owns Wiped owned heap) := by
        apply (create_handsOver host created key).weaken
        · exact fun _ owns => owns
        · exact fun _ _ post => post
        · rintro thrown heap ⟨failed, owns⟩
          rw [failed]
          exact ⟨rfl, owns⟩
      apply got.bind
      intro master
      apply Ensures.ofExists
      intro chars
      apply Ensures.fact
      intro returned
      rw [returned]
      exact ensures_use chars openWithPassword

/-- On Linux the code without memory is `Database.Open`. -/
theorem open_linux (load : Bytes → Str → Except LoadException PwGroup) {host : Host} {w : World}
    (linux : host.platform = .linux) (files : host.files = readFull w) (dbPath key : Str) :
    host.open (fun chars => (openWithPassword load w dbPath (spelled chars)).mapError Thrown.kdbx)
        key =
      Database.open load host.env w dbPath key := by
  rw [Host.open, Host.getMasterPassword, linux, Database.open, files]
  dsimp only
  cases (LinuxSecretStore.getMasterPassword host.env key).run (readFull w) with
  | error thrown => rfl
  | ok master =>
      change (openWithPassword load w dbPath (spelled (spell master))).mapError _ = _
      rw [spelled_spell]
      rfl

/-- One use of `Open`. -/
structure Attempt where
  host : Host
  openWithPassword : CodeUnits → Except Thrown Database
  secretStoreKey : Str

/-- Open one database after the other, whether or not the ones before could be
opened. -/
def openAll : List Attempt → Heap Object → List (Except Thrown Database) × Heap Object
  | [], heap => ([], heap)
  | attempt :: rest, heap =>
      let (result, heap') := exec
        (Database.openInto attempt.host attempt.openWithPassword attempt.secretStoreKey) heap
      let (results, heap'') := openAll rest heap'
      (result :: results, heap'')

/-- One use of `Open` keeps the heap wiped, and so does every run. -/
theorem openAll_owns (attempts : List Attempt) {heap : Heap Object} (owns : Owns Wiped [] heap) :
    (openAll attempts heap).1 = attempts.map (fun attempt =>
        attempt.host.open attempt.openWithPassword attempt.secretStoreKey) ∧
      Owns Wiped [] (openAll attempts heap).2 := by
  induction attempts generalizing heap with
  | nil => exact ⟨rfl, owns⟩
  | cons attempt rest ih =>
      have triple := ensures_openInto [] attempt.host attempt.openWithPassword
        attempt.secretStoreKey
      rw [openAll]
      rcases ran : exec (Database.openInto attempt.host attempt.openWithPassword
        attempt.secretStoreKey) heap with ⟨result, heap'⟩
      have step : attempt.host.open attempt.openWithPassword attempt.secretStoreKey = result ∧
          Owns Wiped [] heap' := by
        cases result with
        | ok db => exact triple.of_ok owns ran
        | error thrown => exact triple.of_error owns ran
      obtain ⟨results, owns'⟩ := ih step.2
      rw [List.map_cons, step.1, ← results]
      exact ⟨rfl, owns'⟩

/-- In every run of `Open` on any hosts, each use has the result that it has without
memory, and in the end every array is zero and every credential has been freed
exactly once. -/
theorem openAll_wipes (attempts : List Attempt) :
    (openAll attempts []).1 = attempts.map (fun attempt =>
        attempt.host.open attempt.openWithPassword attempt.secretStoreKey) ∧
      ∀ object ∈ (openAll attempts []).2, Wiped object := by
  rw [← Owns.nil_iff]
  apply openAll_owns
  exact Owns.nil_iff.mpr fun object member => absurd member List.not_mem_nil

end KdbxCredentials.SecretStore
