import KdbxCredentials.Opening.Interference
import KdbxCredentials.Opening.Vanishing

/-!
# The order of the system calls

Both implementations fetch the master password first.  Without one they never
touch the database.  With one they examine its path, open it, and then read it, or, in
C#, look for the directory of a file that could not be opened; so a run makes four
calls at most and all four before it returns a database.
-/

namespace KdbxCredentials.Opening

open KdbxCredentials.Text
open KdbxCredentials.Effects
open KdbxCredentials.Posix

/-- The calls of a run that reads its secret from one path and then opens a
database at another, with the calls that may end the opening. -/
structure InOrder (endings : List Call) (secretPath dbPath : Bytes) (gotSecret opened : Prop)
    (made : List Call) : Prop where
  ordered : ∃ last ∈ endings, made <+: [.read secretPath, .stat dbPath, .openFile dbPath, last]
  secretFirst : ¬gotSecret → made <+: [.read secretPath]
  complete : opened →
    made = [.read secretPath, .stat dbPath, .openFile dbPath, .readOpened dbPath]

variable {endings : List Call} {secretPath dbPath : Bytes} {gotSecret opened : Prop}
  {secret check : List Call}

/-- A run without a secret has nothing to open. -/
theorem InOrder.of_no_secret (first : secret <+: [.read secretPath]) (closed : ¬opened)
    {last : Call} (ending : last ∈ endings) :
    InOrder endings secretPath dbPath gotSecret opened secret where
  ordered := ⟨last, ending, first.trans ⟨[.stat dbPath, .openFile dbPath, last], rfl⟩⟩
  secretFirst _ := first
  complete isOpen := absurd isOpen closed

/-- A run with a secret goes on with the calls for the database. -/
theorem InOrder.of_secret (got : gotSecret) (first : secret = [.read secretPath])
    (second : ∃ last ∈ endings, check <+: [.stat dbPath, .openFile dbPath, last])
    (complete : opened → check = [.stat dbPath, .openFile dbPath, .readOpened dbPath]) :
    InOrder endings secretPath dbPath gotSecret opened (secret ++ check) where
  ordered := by
    obtain ⟨last, ending, begins⟩ := second
    refine ⟨last, ending, ?_⟩
    rw [first]
    exact (List.prefix_cons_inj _).mpr begins
  secretFirst missing := absurd got missing
  complete isOpen := by
    rw [first, complete isOpen]
    rfl

/-! ## Rust -/

theorem callsMade_ordered (checked opened : World) (dbPath : Bytes) :
    Rust.callsMade checked opened dbPath <+:
      [.stat dbPath, .openFile dbPath, .readOpened dbPath] := by
  rw [Rust.callsMade]
  split_ifs
  · exact List.nil_prefix
  · cases Rust.metadata checked dbPath with
    | error kind => exact ⟨[.openFile dbPath, .readOpened dbPath], rfl⟩
    | ok node =>
        dsimp only
        split_ifs
        · cases Rust.fileOpen opened dbPath with
          | error kind => exact ⟨[.readOpened dbPath], rfl⟩
          | ok file => exact List.prefix_rfl
        · exact ⟨[.openFile dbPath, .readOpened dbPath], rfl⟩

/-- A database is returned after all three calls. -/
theorem callsMade_of_opened (kpOpen : Bytes → Str → Except Rust.DatabaseOpenError Rust.KpDatabase)
    {checked opened : World} {yields : FsNode → Except Errno Bytes} {dbPath : Bytes}
    {password : Str} {db : Rust.KpDatabase}
    (result : Rust.checkThenOpen kpOpen checked opened yields dbPath password = .ok db) :
    Rust.callsMade checked opened dbPath =
      [.stat dbPath, .openFile dbPath, .readOpened dbPath] := by
  cases examined : Rust.metadata checked dbPath with
  | error kind =>
      rw [Rust.checkThenOpen_of_error kpOpen examined] at result
      cases result
  | ok node =>
      cases regular : node.isRegular with
      | false =>
          rw [Rust.checkThenOpen_of_irregular kpOpen examined regular] at result
          cases result
      | true =>
          rw [Rust.checkThenOpen_of_regular kpOpen examined regular] at result
          rw [Rust.callsMade, if_neg (metadata_eq_ok_iff.mp examined).1, examined]
          dsimp only
          rw [regular, if_pos rfl]
          cases file : Rust.fileOpen opened dbPath with
          | ok node' => rfl
          | error kind =>
              rw [file] at result
              cases result

theorem secretCalls_ordered (env : Rust.Environment) (key : Str) :
    secretCalls env key <+: [.read (join (storeDir env) (utf8 key))] := by
  rw [secretCalls]
  split_ifs
  · exact List.prefix_rfl
  · exact List.nil_prefix

/-! ## C# -/

/-- The path of the credential in C#. -/
def csharpSecretPath (env : CSharp.Environment) (key : Str) : Bytes :=
  utf8 (CSharp.combine
    ((env.getEnvironmentVariable CSharp.LinuxSecretStore.credentialsDirEnv).getD []) key)

theorem csharpSecretCalls_ordered (env : CSharp.Environment) (key : Str) :
    csharpSecretCalls env key <+: [.read (csharpSecretPath env key)] := by
  rw [csharpSecretCalls, csharpSecretPath]
  cases env.getEnvironmentVariable CSharp.LinuxSecretStore.credentialsDirEnv with
  | none => exact List.nil_prefix
  | some dir =>
      dsimp only
      split_ifs
      · exact List.prefix_rfl
      · exact List.nil_prefix

/-! ## Both -/

/-- Whatever the file system answers and however it changes, a run of `open` in
either language reads the credential, examines the database, opens it and reads it, in
this order, and stops at the first failure, after which C# may still look for the
directory. -/
theorem opens_inOrder (t : Timeline) :
    (∀ kpOpen env dbPath key, ∃ made,
      (exec (Rust.openCalls kpOpen env dbPath key) t).2.calls = t.calls ++ made ∧
        InOrder [.readOpened dbPath] (join (storeDir env) (utf8 key)) dbPath
          (∃ master, (Rust.getMasterPassword env key).run (t.reads World.openFile) = .ok master)
          (∃ db, (exec (Rust.openCalls kpOpen env dbPath key) t).1 = .ok db) made) ∧
      ∀ load env dbPath key, ∃ made,
        (exec (CSharp.Database.openCalls load env dbPath key) t).2.calls = t.calls ++ made ∧
          InOrder (CSharp.endings (utf8 dbPath)) (csharpSecretPath env key) (utf8 dbPath)
            (∃ master, (CSharp.LinuxSecretStore.getMasterPassword env key).run
              (t.reads CSharp.openFull) = .ok master)
            (∃ db, (exec (CSharp.Database.openCalls load env dbPath key) t).1 = .ok db) made := by
  constructor
  · intro kpOpen env dbPath key
    cases secret : (Rust.getMasterPassword env key).run (t.reads World.openFile) with
    | error error =>
        rw [exec_openCalls_of_error kpOpen secret]
        refine ⟨secretCalls env key, rfl, ?_⟩
        exact InOrder.of_no_secret (secretCalls_ordered env key) (by simp) (.head _)
    | ok master =>
        rw [exec_openCalls_of_ok kpOpen secret]
        refine ⟨_, rfl, ?_⟩
        apply InOrder.of_secret ⟨master, rfl⟩ (if_pos (accepted_of_secret secret))
          ⟨_, .head _, callsMade_ordered _ _ dbPath⟩
        rintro ⟨db, result⟩
        exact callsMade_of_opened kpOpen result
  · intro load env dbPath key
    cases secret : (CSharp.LinuxSecretStore.getMasterPassword env key).run
        (t.reads CSharp.openFull) with
    | error thrown =>
        rw [exec_csharpOpenCalls_of_error load secret]
        refine ⟨csharpSecretCalls env key, rfl, ?_⟩
        exact InOrder.of_no_secret (csharpSecretCalls_ordered env key) (by simp) (.head _)
    | ok master =>
        obtain ⟨made, ran, order⟩ := exec_csharpOpenCalls_of_ok load secret dbPath
        refine ⟨csharpSecretCalls env key ++ made, by rw [ran], ?_⟩
        have first := List.IsPrefix.eq_of_length (csharpSecretCalls_ordered env key)
          (length_csharpSecretCalls secret)
        exact InOrder.of_secret ⟨master, rfl⟩ first order.ordered order.complete

end KdbxCredentials.Opening
