import KdbxCredentials.CSharp.OpenCalls
import KdbxCredentials.Opening.Classification
import KdbxCredentials.Rust.OpenCalls
import KdbxCredentials.SecretStore.Directory

/-!
# Opening while the file system changes

Both implementations examine the path before they open it, and open the file before
they read it, with the file system free to change in between.  Apart from a file that
is replaced by something else than a file, Rust returns what it would return in one of
the two worlds, where the contents of the file are those that are read.
-/

namespace KdbxCredentials.Opening

open KdbxCredentials.Text
open KdbxCredentials.Effects
open KdbxCredentials.Posix
open KdbxCredentials.Rust

variable (kpOpen : Bytes → Str → Except DatabaseOpenError KpDatabase)

/-! ## Rust -/

/-- The path names a regular file in the first world and a node of another kind
in the second. -/
def Replaced (checked opened : World) (dbPath : Bytes) : Prop :=
  (∃ readable contents, checked.ResolvesTo dbPath (.regular readable contents)) ∧
    ∃ node, opened.ResolvesTo dbPath node ∧ node.isRegular = false

variable {checked opened : World} {dbPath : Bytes}

/-- A path with a NUL byte fails alike everywhere. -/
theorem metadata_eq_ok_iff {w : World} {node : FsNode} :
    metadata w dbPath = .ok node ↔ nul ∉ dbPath ∧ w.ResolvesTo dbPath node := by
  rw [metadata, World.ResolvesTo]
  split_ifs with hasNul
  · simp [hasNul]
  · cases w.resolve dbPath <;> simp [Except.map, Except.mapError, hasNul]

/-- Once a regular file has been found, another regular file or a failure to open
it is what the second world alone gives. -/
theorem checkThenOpen_eq_opened {regularNode : FsNode}
    (examined : metadata checked dbPath = .ok regularNode) (regular : regularNode.isRegular = true)
    (kept : ∀ node, opened.ResolvesTo dbPath node → node.isRegular = true)
    (yields : FsNode → Except Errno Bytes) (password : Str) :
    checkThenOpen kpOpen checked opened yields dbPath password =
      checkThenOpen kpOpen opened opened yields dbPath password := by
  rw [checkThenOpen_of_regular kpOpen examined regular]
  have noNul := (metadata_eq_ok_iff.mp examined).1
  cases found : opened.resolve dbPath with
  | error e =>
      have failed : metadata opened dbPath = .error (errorKind e) := by
        rw [metadata, if_neg noNul, found]
        rfl
      have refused : fileOpen opened dbPath = .error (errorKind e) := by
        rw [fileOpen, if_neg noNul, World.openFile, found]
        rfl
      rw [checkThenOpen_of_error kpOpen failed, refused]
      rfl
  | ok loc =>
      have resolves : opened.ResolvesTo dbPath loc.node := ⟨loc, found, rfl⟩
      have examined' := metadata_eq_ok_iff.mpr ⟨noNul, resolves⟩
      rw [checkThenOpen_of_regular kpOpen examined' (kept loc.node resolves)]

/-- The reader never reports a missing database. -/
theorem databaseOpenIn_ne_databaseNotFound (yields : FsNode → Except Errno Bytes)
    (file : FsNode) (password : Str) (path : Bytes) :
    (databaseOpenIn kpOpen yields file password).mapError mapOpenError ≠
      .error (.databaseNotFound path) := by
  cases databaseOpenIn kpOpen yields file password with
  | ok db =>
      intro reported
      cases reported
  | error error =>
      intro reported
      rcases mapOpenError_cases error with
        ⟨_, _, mapped⟩ | ⟨_, mapped⟩ | ⟨_, _, mapped⟩ <;>
        · rw [Except.mapError, mapped] at reported
          cases reported

/-- A database is decoded from what the file yields. -/
theorem databaseOpenIn_eq_ok {yields : FsNode → Except Errno Bytes} {file : FsNode}
    {password : Str} {db : KpDatabase}
    (result : (databaseOpenIn kpOpen yields file password).mapError mapOpenError = .ok db) :
    ∃ contents, yields file = .ok contents ∧ kpOpen contents password = .ok db := by
  rw [mapError_eq_ok_iff, databaseOpenIn, bind_eq_ok_iff] at result
  obtain ⟨contents, read, decoded⟩ := result
  exact ⟨contents, mapError_eq_ok_iff.mp read, decoded⟩

/-- What yields something though it is not a regular file is a special one. -/
theorem special_of_yields {t : Timeline} {n : Nat} {node : FsNode} {contents : Bytes}
    (irregular : node.isRegular = false) (yielded : t.contentsAt n node = .ok contents) :
    ∃ readable stream, node = .special readable stream := by
  cases node with
  | regular readable contents => cases irregular
  | directory searchable entries => cases yielded
  | special readable stream => exact ⟨readable, stream, rfl⟩

/-- What is opened in place of the file is never missing, and a database can only
come from what it yields. -/
theorem checkThenOpen_of_replaced {regularNode node : FsNode}
    (examined : metadata checked dbPath = .ok regularNode) (regular : regularNode.isRegular = true)
    (named : opened.ResolvesTo dbPath node) (yields : FsNode → Except Errno Bytes)
    (password : Str) :
    (∀ path, checkThenOpen kpOpen checked opened yields dbPath password ≠
        .error (.databaseNotFound path)) ∧
      ∀ db, checkThenOpen kpOpen checked opened yields dbPath password = .ok db →
        ∃ contents, yields node = .ok contents ∧ kpOpen contents password = .ok db := by
  have noNul := (metadata_eq_ok_iff.mp examined).1
  obtain ⟨loc, found, rfl⟩ := named
  rw [checkThenOpen_of_regular kpOpen examined regular, fileOpen, if_neg noNul,
    World.openFile_of_ok found]
  cases loc.node.isReadable with
  | false =>
      constructor
      · intro path result
        cases result
      · intro db result
        cases result
  | true =>
      constructor
      · exact databaseOpenIn_ne_databaseNotFound kpOpen yields loc.node password
      · intro db result
        exact databaseOpenIn_eq_ok kpOpen result

/-! ## The whole of `open` -/

/-- The directory that holds the credential. -/
def storeDir (env : Environment) : Bytes :=
  (env.varOs credentialsDirEnv).getD ((env.varOs credFileDirEnv).getD defaultCredDir)

/-- The calls that fetch the master password. -/
def secretCalls (env : Environment) (key : Str) : List Call :=
  if isSafeCredentialId key then [.read (join (storeDir env) (utf8 key))] else []

/-- `open` with its secret, in one world. -/
def openWith (secret : Except KdbxError Str) (w : World) (dbPath : Bytes) :
    Except KdbxError KpDatabase := do
  let master ← secret
  openWithPassword kpOpen w dbPath master

/-- `open` with its secret, in one world, with what the file yields when it is read. -/
def openReading (secret : Except KdbxError Str) (w : World) (yields : FsNode → Except Errno Bytes)
    (dbPath : Bytes) : Except KdbxError KpDatabase := do
  let master ← secret
  checkThenOpen kpOpen w w yields dbPath master

variable {env : Environment} {key : Str}

theorem getMasterPassword_eq_readFromDir (env : Environment) (key : Str) :
    getMasterPassword env key = readFromDir (storeDir env) key := by
  rw [getMasterPassword, storeDir]
  cases env.varOs credentialsDirEnv <;> rfl

theorem nul_not_mem_storeDir (env : Environment) : nul ∉ storeDir env := by
  rw [storeDir]
  cases systemd : env.varOs credentialsDirEnv with
  | some dir => exact env.nul_not_mem systemd
  | none =>
      cases configured : env.varOs credFileDirEnv with
      | some dir => exact env.nul_not_mem configured
      | none => decide

/-- The master password is read in one call, or in none if the key is rejected. -/
theorem exec_getMasterPassword (env : Environment) (key : Str) (t : Timeline) :
    exec ((getMasterPassword env key).perform World.openFile) t =
      ((getMasterPassword env key).run (t.reads World.openFile),
        { t with calls := t.calls ++ secretCalls env key }) := by
  rw [getMasterPassword_eq_readFromDir, secretCalls]
  cases accepted : isSafeCredentialId key with
  | false =>
      rw [readFromDir_of_rejected _ accepted, if_neg Bool.false_ne_true, List.append_nil]
      rfl
  | true =>
      obtain ⟨_, _, relative, _⟩ := SecretStore.components_join_key (storeDir env) accepted
      have noNul : nul ∉ join (storeDir env) (utf8 key) := by
        rw [mem_join_iff (by decide) relative]
        exact not_or.mpr ⟨nul_not_mem_storeDir env,
          SecretStore.isSafeCredentialId_noNul accepted⟩
      rw [readFromDir_of_accepted _ accepted, readToString, if_neg noNul, if_pos rfl]
      exact FileProgram.exec_perform_read (fun _ => rfl) t

/-- A master password comes from an accepted key. -/
theorem accepted_of_secret {fs : Bytes → Except Errno Bytes} {master : Str}
    (secret : (getMasterPassword env key).run fs = .ok master) : isSafeCredentialId key = true := by
  rw [getMasterPassword_eq_readFromDir] at secret
  cases accepted : isSafeCredentialId key with
  | true => rfl
  | false =>
      rw [readFromDir_of_rejected _ accepted] at secret
      cases secret

/-- Without a secret `open` makes no further call. -/
theorem exec_openCalls_of_error {t : Timeline} {error : KdbxError}
    (secret : (getMasterPassword env key).run (t.reads World.openFile) = .error error)
    (dbPath : Bytes) :
    exec (openCalls kpOpen env dbPath key) t =
      (.error error, { t with calls := t.calls ++ secretCalls env key }) := by
  rw [openCalls, exec_bind, exec_getMasterPassword, secret]

/-- With a secret `open` examines the path in the next world, opens the file in the one
after it, and reads it after that. -/
theorem exec_openCalls_of_ok {t : Timeline} {master : Str}
    (secret : (getMasterPassword env key).run (t.reads World.openFile) = .ok master)
    (dbPath : Bytes) :
    exec (openCalls kpOpen env dbPath key) t =
      (checkThenOpen kpOpen (t.world (t.calls.length + 1)) (t.world (t.calls.length + 2))
          (t.contentsAt (t.calls.length + 3)) dbPath master,
        { t with
          calls := t.calls ++ (secretCalls env key ++
            callsMade (t.world (t.calls.length + 1)) (t.world (t.calls.length + 2)) dbPath) }) := by
  have one : (t.calls ++ secretCalls env key).length = t.calls.length + 1 := by
    rw [secretCalls, if_pos (accepted_of_secret secret), List.length_append]
    rfl
  rw [openCalls, exec_bind, exec_getMasterPassword, secret]
  dsimp only
  rw [exec_openWithPasswordCalls, Timeline.now]
  dsimp only
  rw [one, List.append_assoc]
  rfl

/-- The result is that of one of the two worlds, where the file yields what is read, or
the file was replaced between them: then no missing database is reported, and a
database comes from what a special file yields. -/
def Justified (secret : Except KdbxError Str) (checked opened : World)
    (yields : FsNode → Except Errno Bytes) (dbPath : Bytes)
    (result : Except KdbxError KpDatabase) : Prop :=
  result = openWith kpOpen secret checked dbPath ∨
    result = openReading kpOpen secret opened yields dbPath ∨
    Replaced checked opened dbPath ∧ (∀ path, result ≠ .error (.databaseNotFound path)) ∧
      ∀ db, result = .ok db → ∃ master readable stream contents, secret = .ok master ∧
        opened.ResolvesTo dbPath (.special readable stream) ∧
        yields (.special readable stream) = .ok contents ∧ kpOpen contents master = .ok db

/-- A check in one world and an open in another are justified by the two. -/
theorem justified_checkThenOpen (checked opened : World) (t : Timeline) (n : Nat)
    (dbPath : Bytes) (master : Str) :
    Justified kpOpen (.ok master) checked opened (t.contentsAt n) dbPath
      (checkThenOpen kpOpen checked opened (t.contentsAt n) dbPath master) := by
  cases examined : metadata checked dbPath with
  | error kind =>
      left
      change _ = openWithPassword kpOpen checked dbPath master
      rw [← checkThenOpen_same, checkThenOpen_of_error kpOpen examined,
        checkThenOpen_of_error kpOpen examined]
  | ok node =>
      cases regular : node.isRegular with
      | false =>
          left
          change _ = openWithPassword kpOpen checked dbPath master
          rw [← checkThenOpen_same, checkThenOpen_of_irregular kpOpen examined regular,
            checkThenOpen_of_irregular kpOpen examined regular]
      | true =>
          right
          by_cases kept : ∀ node, opened.ResolvesTo dbPath node → node.isRegular = true
          · exact Or.inl (checkThenOpen_eq_opened kpOpen examined regular kept _ master)
          · right
            push Not at kept
            obtain ⟨node', named, irregular⟩ := kept
            have irregular' : node'.isRegular = false := by simpa using irregular
            obtain ⟨present, yielded⟩ :=
              checkThenOpen_of_replaced kpOpen examined regular named (t.contentsAt n) master
            refine ⟨⟨?_, node', named, irregular'⟩, present, ?_⟩
            · cases node with
              | regular readable contents =>
                  exact ⟨readable, contents, (metadata_eq_ok_iff.mp examined).2⟩
              | directory searchable entries => cases regular
              | special readable stream => cases regular
            · intro db result
              obtain ⟨contents, read, decoded⟩ := yielded db result
              obtain ⟨readable, stream, rfl⟩ := special_of_yields irregular' read
              exact ⟨master, readable, stream, contents, rfl, named, read, decoded⟩

/-- However the file system changes, what `open` returns is justified by the world
that the credential was read in, the two worlds after it, and what the file yields when
it is read. -/
theorem open_under_interference (env : Environment) (dbPath : Bytes) (key : Str) (t : Timeline) :
    Justified kpOpen ((getMasterPassword env key).run (t.reads World.openFile))
      (t.world (t.calls.length + 1)) (t.world (t.calls.length + 2))
      (t.contentsAt (t.calls.length + 3)) dbPath
      (exec (openCalls kpOpen env dbPath key) t).1 := by
  cases secret : (getMasterPassword env key).run (t.reads World.openFile) with
  | error error =>
      rw [exec_openCalls_of_error kpOpen secret]
      exact Or.inl rfl
  | ok master =>
      rw [exec_openCalls_of_ok kpOpen secret]
      exact justified_checkThenOpen kpOpen _ _ t _ dbPath master

/-- In a file system to which nothing happens, the calls of `open` give its result. -/
theorem exec_openCalls_of_quiet {w : World} {t : Timeline} (quiet : t.Quiet w)
    (env : Environment) (dbPath : Bytes) (key : Str) :
    (exec (openCalls kpOpen env dbPath key) t).1 = «open» kpOpen env w dbPath key := by
  have reads : t.reads World.openFile = w.readFile := by
    rw [quiet.reads, w.openFile_bind_read]
  rw [«open»]
  cases secret : (getMasterPassword env key).run w.readFile with
  | error error =>
      rw [← reads] at secret
      rw [exec_openCalls_of_error kpOpen secret]
      rfl
  | ok master =>
      rw [← reads] at secret
      rw [exec_openCalls_of_ok kpOpen secret, quiet.world, quiet.world, quiet.contentsAt]
      rfl

end KdbxCredentials.Opening
