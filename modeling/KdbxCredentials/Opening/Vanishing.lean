import KdbxCredentials.CSharp.OpenCalls
import KdbxCredentials.SecretStore.Agreement

/-!
# Databases that vanish while they are opened

In C# the existence test decides what a failure to open is called.  A file that
vanishes after the test is still reported as missing, unless .NET, which looks for
the directory of the full path once the open has failed, no longer finds it; when
something else comes in the file's place, the failure of the open is reported for
what it is, where the test alone would have called the database missing.
-/

namespace KdbxCredentials.Opening

open KdbxCredentials.Text
open KdbxCredentials.Effects
open KdbxCredentials.Posix
open KdbxCredentials.CSharp

variable (load : Bytes → Str → Except LoadException PwGroup)

/-- The open meets something that the existence test would have refused, other
than a missing name in a directory that is found afterwards. -/
def Interrupted (opened later : World) (dbPath : Str) : Prop :=
  ∃ full, getFullPath opened (utf8 dbPath) = .ok full ∧
    (opened.Refused full ∨ opened.ThroughNonDirectory full ∨
      (∃ node, opened.ResolvesTo full node ∧ node.isDirectory = true) ∨
      opened.Missing full ∧ directoryExists later (parentPath full) = false)

/-- The failure of an open that is neither a missing database nor a wrong key. -/
def OpenFailure (exception : KdbxException) : Prop :=
  exception = .permissionDenied "permission denied reading the database file"
      (some .unauthorizedAccess) ∨
    ∃ cause, exception =
      .databaseCorrupt "database file is corrupt or in an unsupported format" (some cause)

variable {w checked opened : World} {dbPath : Str}

theorem wellFormed_of_fileExists (present : fileExists w dbPath = true) :
    WellFormed (utf8 dbPath) := by
  by_contra illFormed
  rw [fileExists_of_error (resolveFull_of_illFormed illFormed)] at present
  cases present

/-- A path has a full path unless the working directory is gone. -/
theorem getFullPath_errno {path : Bytes} {e : Errno} (failed : getFullPath w path = .error e) :
    e = .enoent := by
  rw [getFullPath] at failed
  by_cases formed : WellFormed path
  · rw [if_neg (not_not.mpr formed)] at failed
    cases absolute : isAbsolute path with
    | true =>
        rw [absolute, if_pos rfl] at failed
        cases failed
    | false =>
        rw [absolute, if_neg Bool.false_ne_true, getcwd] at failed
        cases here : w.workingDirectory with
        | some loc =>
            rw [here] at failed
            cases failed
        | none =>
            rw [here] at failed
            cases failed
            rfl
  · rw [if_pos formed] at failed
    cases failed
    rfl

/-- What an attempt to open a file comes to decides what KeePassLib does. -/
theorem pwDatabaseOpenIn_of_error (formed : WellFormed (utf8 dbPath)) {later : World}
    {exception : SystemException} (failed : openFileIn opened later dbPath = .error exception)
    (yields : FsNode → Except Errno Bytes) (password : Str) :
    pwDatabaseOpenIn load opened later yields dbPath password = .error exception := by
  rw [pwDatabaseOpenIn, if_neg (not_not.mpr formed), failed]
  rfl

/-- A node that the existence test accepts is opened unless it may not be read. -/
theorem openFileIn_of_file {loc : Location} (found : resolveFull w (utf8 dbPath) = .ok loc)
    (file : loc.node.isDirectory = false) (later : World) :
    openFileIn w later dbPath =
      if loc.node.isReadable then .ok loc.node else .error .unauthorizedAccess := by
  rw [resolveFull] at found
  rw [openFileIn]
  cases full : getFullPath w (utf8 dbPath) with
  | error e =>
      rw [full] at found
      cases found
  | ok path =>
      rw [full] at found
      change openedIn later path (w.openFile path) = _
      rw [World.openFile_of_ok found]
      cases loc.node.isReadable with
      | false => rfl
      | true =>
          change (if loc.node.isDirectory then _ else _) = _
          rw [file]
          rfl

/-- In one world, with a file that yields what it holds, the calls add nothing to the
existence test. -/
theorem csharpCheckThenOpen_same (w : World) (dbPath password : Str) :
    CSharp.checkThenOpen load w w w FsNode.read dbPath password =
      CSharp.openWithPassword load w dbPath password := by
  cases present : fileExists w dbPath with
  | false =>
      rw [CSharp.checkThenOpen_of_absent load present,
        CSharp.openWithPassword_of_not_exists load password present]
  | true =>
      have formed := wellFormed_of_fileExists present
      rw [CSharp.checkThenOpen_of_present load present]
      cases found : resolveFull w (utf8 dbPath) with
      | error e =>
          rw [fileExists_of_error found] at present
          cases present
      | ok loc =>
          have file : loc.node.isDirectory = false := by
            rw [fileExists_of_ok found] at present
            simpa using present
          rw [CSharp.openWithPassword_of_file load password found file, pwDatabaseOpenIn,
            if_neg (not_not.mpr formed), openFileIn_of_file found file]
          cases loc.node with
          | directory searchable entries => rfl
          | regular readable contents => cases readable <;> rfl
          | special readable stream => cases readable <;> rfl

/-- After a successful test the open gives the result of its own world, or it is
interrupted. -/
theorem csharpCheckThenOpen_cases (present : fileExists checked dbPath = true)
    (opened later : World) (yields : FsNode → Except Errno Bytes) (password : Str) :
    CSharp.checkThenOpen load checked opened later yields dbPath password =
        CSharp.checkThenOpen load opened opened later yields dbPath password ∨
      Interrupted opened later dbPath ∧ ∃ exception, OpenFailure exception ∧
        CSharp.checkThenOpen load checked opened later yields dbPath password =
          .error exception := by
  have formed := wellFormed_of_fileExists present
  rw [CSharp.checkThenOpen_of_present load present]
  cases present' : fileExists opened dbPath with
  | true =>
      left
      rw [CSharp.checkThenOpen_of_present load present']
  | false =>
      rw [CSharp.checkThenOpen_of_absent load present']
      -- The exception of the open, whatever it is, reaches the caller.
      have reported : ∀ exception, openFileIn opened later dbPath = .error exception →
          ((pwDatabaseOpenIn load opened later yields dbPath password).mapError
            (mapOpenException dbPath)).map (fun rootGroup => ({ rootGroup := rootGroup } :
              Database)) = .error (mapOpenException dbPath exception) := by
        intro exception failed
        rw [pwDatabaseOpenIn_of_error load formed failed]
        rfl
      cases full : getFullPath opened (utf8 dbPath) with
      | error e =>
          left
          apply reported .fileNotFound
          rw [openFileIn, full, getFullPath_errno full]
          rfl
      | ok path =>
          have attempt : openFileIn opened later dbPath =
              openedIn later path (opened.openFile path) := by
            rw [openFileIn, full]
            rfl
          rcases World.resolve_cases opened path with
            ⟨failed, missing⟩ | ⟨failed, through⟩ | ⟨failed, refused⟩ | ⟨loc, found, named⟩
          · have met : opened.openFile path = .error .enoent := by
              rw [World.openFile, failed]
              rfl
            rw [met] at attempt
            cases parent : directoryExists later (parentPath path) with
            | true =>
                left
                apply reported .fileNotFound
                rw [attempt, openedIn, parent]
                rfl
            | false =>
                right
                refine ⟨⟨path, full, Or.inr (Or.inr (Or.inr ⟨missing, parent⟩))⟩, _,
                  Or.inr ⟨.directoryNotFound, rfl⟩, reported .directoryNotFound ?_⟩
                rw [attempt, openedIn, parent]
                rfl
          · right
            refine ⟨⟨path, full, Or.inr (Or.inl through)⟩, _, Or.inr ⟨.io, rfl⟩,
              reported .io ?_⟩
            rw [attempt, World.openFile, failed]
            rfl
          · right
            refine ⟨⟨path, full, Or.inl refused⟩, _, Or.inl rfl,
              reported .unauthorizedAccess ?_⟩
            rw [attempt, World.openFile, failed]
            rfl
          · right
            have directory : loc.node.isDirectory = true := by
              have resolved : resolveFull opened (utf8 dbPath) = .ok loc := by
                rw [resolveFull, full]
                exact found
              rw [fileExists_of_ok resolved] at present'
              simpa using present'
            refine ⟨⟨path, full, Or.inr (Or.inr (Or.inl ⟨loc.node, named, directory⟩))⟩, _,
              Or.inl rfl, reported .unauthorizedAccess ?_⟩
            rw [attempt, World.openFile_of_ok found]
            cases kind : loc.node with
            | directory searchable entries => rfl
            | regular readable contents =>
                rw [kind] at directory
                cases directory
            | special readable stream =>
                rw [kind] at directory
                cases directory

/-! ## The whole of `Open` -/

/-- The calls that fetch the master password. -/
def csharpSecretCalls (env : CSharp.Environment) (key : Str) : List Call :=
  match env.getEnvironmentVariable LinuxSecretStore.credentialsDirEnv with
  | none => []
  | some dir =>
      if dir ≠ [] ∧ isSafeCredentialId key = true then [.read (utf8 (combine dir key))] else []

/-- The path of an accepted key can be handed to the system. -/
theorem combine_usable {dir key : Str} (nonempty : dir ≠ []) (noNul : Char.ofNat 0 ∉ dir)
    (accepted : isSafeCredentialId key = true) :
    ¬(combine dir key = [] ∨ Char.ofNat 0 ∈ combine dir key) := by
  have plain := ((SecretStore.csharp_isSafeCredentialId_iff key).mp accepted).1
  have notRooted : key.head? ≠ some '/' :=
    fun head => plain.noSlash (List.mem_of_mem_head? head)
  have keyFree : Char.ofNat 0 ∉ key := plain.noNul
  rw [combine, if_neg nonempty, if_neg plain.nonempty, if_neg notRooted]
  split_ifs
  · simp [nonempty, noNul, keyFree]
  · have other : Char.ofNat 0 ≠ '/' := by decide
    simp [noNul, keyFree, other]

/-- Without a directory the store is unavailable and calls nothing; with one it
makes the call for an accepted key. -/
theorem csharp_secret_cases (env : CSharp.Environment) (key : Str) :
    (LinuxSecretStore.getMasterPassword env key =
          .done (.error LinuxSecretStore.notUnderSystemd) ∧
        csharpSecretCalls env key = []) ∨
      ∃ dir, dir ≠ [] ∧ Char.ofNat 0 ∉ dir ∧
        LinuxSecretStore.getMasterPassword env key = CSharp.readFromDir dir key ∧
        csharpSecretCalls env key =
          if isSafeCredentialId key = true then [.read (utf8 (combine dir key))] else [] := by
  rw [LinuxSecretStore.getMasterPassword, csharpSecretCalls]
  cases found : env.getEnvironmentVariable LinuxSecretStore.credentialsDirEnv with
  | none => exact Or.inl ⟨rfl, rfl⟩
  | some dir =>
      dsimp only
      by_cases empty : dir = []
      · rw [if_pos empty, if_neg (fun present => present.1 empty)]
        exact Or.inl ⟨rfl, rfl⟩
      · rw [if_neg empty]
        exact Or.inr ⟨dir, empty, env.nul_not_mem found, rfl, by simp [empty]⟩

/-- The credential is read in one call, or in none if there is no directory or the
key is rejected. -/
theorem exec_csharp_getMasterPassword (env : CSharp.Environment) (key : Str) (t : Timeline) :
    exec ((LinuxSecretStore.getMasterPassword env key).perform openFull) t =
      ((LinuxSecretStore.getMasterPassword env key).run (t.reads openFull),
        { t with calls := t.calls ++ csharpSecretCalls env key }) := by
  rcases csharp_secret_cases env key with
    ⟨unavailable, calls⟩ | ⟨dir, nonempty, noNul, fromDir, calls⟩
  · rw [unavailable, calls, List.append_nil]
    rfl
  · rw [fromDir, calls]
    cases accepted : isSafeCredentialId key with
    | false =>
        rw [readFromDir_of_rejected dir accepted, if_neg Bool.false_ne_true, List.append_nil]
        rfl
    | true =>
        rw [readFromDir_of_accepted dir accepted, readAllBytes,
          if_neg (combine_usable nonempty noNul accepted), if_pos rfl]
        exact FileProgram.exec_perform_read (fun _ => rfl) t

/-- A master password costs one call. -/
theorem length_csharpSecretCalls {env : CSharp.Environment} {key master : Str}
    {fs : Bytes → Except Errno Bytes}
    (secret : (LinuxSecretStore.getMasterPassword env key).run fs = .ok master) :
    (csharpSecretCalls env key).length = 1 := by
  rcases csharp_secret_cases env key with
    ⟨unavailable, calls⟩ | ⟨dir, nonempty, noNul, fromDir, calls⟩
  · rw [unavailable] at secret
    cases secret
  · rw [fromDir] at secret
    cases accepted : isSafeCredentialId key with
    | false =>
        rw [readFromDir_of_rejected dir accepted] at secret
        cases secret
    | true =>
        rw [calls, accepted, if_pos rfl]
        rfl

/-- `Open` with its secret, in one world. -/
def csharpOpenWith (secret : Except Thrown Str) (w : World) (dbPath : Str) :
    Except Thrown Database := do
  let master ← secret
  (CSharp.openWithPassword load w dbPath master).mapError Thrown.kdbx

/-- `Open` with its secret, in one world, with what the file yields when it is read. -/
def csharpOpenReading (secret : Except Thrown Str) (w later : World)
    (yields : FsNode → Except Errno Bytes) (dbPath : Str) : Except Thrown Database := do
  let master ← secret
  (CSharp.checkThenOpen load w w later yields dbPath master).mapError Thrown.kdbx

/-- Without a secret `Open` makes no further call. -/
theorem exec_csharpOpenCalls_of_error {env : CSharp.Environment} {key : Str} {t : Timeline}
    {thrown : Thrown}
    (secret : (LinuxSecretStore.getMasterPassword env key).run (t.reads openFull) =
      .error thrown) (dbPath : Str) :
    exec (Database.openCalls load env dbPath key) t =
      (.error thrown, { t with calls := t.calls ++ csharpSecretCalls env key }) := by
  rw [Database.openCalls, exec_bind, exec_csharp_getMasterPassword, secret]

/-- With a secret `Open` makes its test in the next world and opens the file in the
one after it. -/
theorem exec_csharpOpenCalls_of_ok {env : CSharp.Environment} {key master : Str} {t : Timeline}
    (secret : (LinuxSecretStore.getMasterPassword env key).run (t.reads openFull) = .ok master)
    (dbPath : Str) :
    ∃ made, exec (Database.openCalls load env dbPath key) t =
        ((CSharp.checkThenOpen load (t.world (t.calls.length + 1)) (t.world (t.calls.length + 2))
            (t.world (t.calls.length + 3)) (t.contentsAt (t.calls.length + 3)) dbPath
            master).mapError Thrown.kdbx,
          { t with calls := t.calls ++ (csharpSecretCalls env key ++ made) }) ∧
      CallsMade (utf8 dbPath)
        (∃ db, (exec (Database.openCalls load env dbPath key) t).1 = .ok db) made := by
  have one : (t.calls ++ csharpSecretCalls env key).length = t.calls.length + 1 := by
    rw [List.length_append, length_csharpSecretCalls secret]
  rw [Database.openCalls, exec_bind, exec_csharp_getMasterPassword, secret]
  dsimp only
  obtain ⟨made, ran, order⟩ := CSharp.exec_openWithPasswordCalls load dbPath master
    { t with calls := t.calls ++ csharpSecretCalls env key }
  rw [Timeline.now] at ran
  dsimp only [Timeline.contentsAt] at ran
  rw [one, List.append_assoc] at ran
  refine ⟨made, ?_, ?_⟩
  · rw [exec_mapError, ran]
    rfl
  · rw [exec_mapError]
    dsimp only
    simp only [mapError_eq_ok_iff]
    exact order

/-- The result is that of one of the two worlds, where the file yields what is read, or a
successful test was followed by an interrupted open, which fails and not as a missing
database. -/
def CSharpJustified (secret : Except Thrown Str) (checked opened later : World)
    (yields : FsNode → Except Errno Bytes) (dbPath : Str) (result : Except Thrown Database) :
    Prop :=
  result = csharpOpenWith load secret checked dbPath ∨
    result = csharpOpenReading load secret opened later yields dbPath ∨
    fileExists checked dbPath = true ∧ Interrupted opened later dbPath ∧
      ∃ exception, OpenFailure exception ∧ result = .error (.kdbx exception)

/-- However the file system changes, what `Open` returns is justified by the world
that the credential was read in, the three worlds after it, and what the file yields
when it is read. -/
theorem csharpOpen_under_interference (env : CSharp.Environment) (dbPath key : Str)
    (t : Timeline) :
    CSharpJustified load ((LinuxSecretStore.getMasterPassword env key).run (t.reads openFull))
      (t.world (t.calls.length + 1)) (t.world (t.calls.length + 2)) (t.world (t.calls.length + 3))
      (t.contentsAt (t.calls.length + 3)) dbPath
      (exec (Database.openCalls load env dbPath key) t).1 := by
  cases secret : (LinuxSecretStore.getMasterPassword env key).run (t.reads openFull) with
  | error thrown =>
      rw [exec_csharpOpenCalls_of_error load secret]
      exact Or.inl rfl
  | ok master =>
      obtain ⟨made, ran, _⟩ := exec_csharpOpenCalls_of_ok load secret dbPath
      rw [ran]
      cases present : fileExists (t.world (t.calls.length + 1)) dbPath with
      | false =>
          left
          change _ = (CSharp.openWithPassword load (t.world (t.calls.length + 1)) dbPath
            master).mapError Thrown.kdbx
          rw [CSharp.checkThenOpen_of_absent load present,
            CSharp.openWithPassword_of_not_exists load master present]
      | true =>
          right
          rcases csharpCheckThenOpen_cases load present (t.world (t.calls.length + 2))
              (t.world (t.calls.length + 3)) (t.contentsAt (t.calls.length + 3)) master with
            result | ⟨interrupted, exception, failure, result⟩
          · left
            rw [result]
            rfl
          · right
            refine ⟨present, interrupted, exception, failure, ?_⟩
            rw [result]
            rfl

/-- In a file system to which nothing happens, the calls of `Open` give its result. -/
theorem exec_csharpOpenCalls_of_quiet {w : World} {t : Timeline} (quiet : t.Quiet w)
    (env : CSharp.Environment) (dbPath key : Str) :
    (exec (Database.openCalls load env dbPath key) t).1 =
      Database.open load env w dbPath key := by
  have reads : t.reads openFull = readFull w := by
    rw [quiet.reads, openFull_bind_read]
  rw [Database.open]
  cases secret : (LinuxSecretStore.getMasterPassword env key).run (readFull w) with
  | error thrown =>
      rw [← reads] at secret
      rw [exec_csharpOpenCalls_of_error load secret]
      rfl
  | ok master =>
      rw [← reads] at secret
      obtain ⟨made, ran, _⟩ := exec_csharpOpenCalls_of_ok load secret dbPath
      rw [ran, quiet.world, quiet.world, quiet.world, quiet.contentsAt,
        csharpCheckThenOpen_same load]
      rfl

end KdbxCredentials.Opening
