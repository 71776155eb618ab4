import KdbxCredentials.CSharp.LinuxSecretStore
import KdbxCredentials.CSharp.Open
import KdbxCredentials.Posix.Timeline
import Mathlib.Data.List.DropRight

/-!
# Opening with the stored master password in C#

`Database.Open` on Linux in one world, and the same code as the system calls
that it makes: the credential is read, the existence test examines the path, and
KeePassLib opens the file and reads it.  When the file cannot be opened because it is
missing, .NET looks for its directory and blames the directory if that is missing too.
-/

namespace KdbxCredentials.CSharp

open KdbxCredentials.Text
open KdbxCredentials.Effects
open KdbxCredentials.Posix

variable (load : Bytes → Str → Except LoadException PwGroup)

/-- Open the database, authenticating with the master password stored under a
key. -/
def Database.open (env : Environment) (w : World) (dbPath secretStoreKey : Str) :
    Except Thrown Database := do
  let master ← (LinuxSecretStore.getMasterPassword env secretStoreKey).run (readFull w)
  (openWithPassword load w dbPath master).mapError Thrown.kdbx

/-! ## .NET -/

/-- The directory of a full path that ends in a name, with its slash. -/
def parentPath (path : Bytes) : Bytes :=
  path.rdropWhile fun byte => byte != slash

/-- Whether a path names a directory. -/
def directoryExists (w : World) (path : Bytes) : Bool :=
  match w.resolve path with
  | .ok loc => loc.node.isDirectory
  | .error _ => false

/-- The exception for a missing file, by the existence of its directory. -/
def missingException (directory : Bool) : SystemException :=
  if directory then .fileNotFound else .directoryNotFound

/-! ## The system calls -/

/-- `File.Exists` as a call, which an ill-formed path does not reach. -/
def fileExistsCall (path : Str) : Action Timeline KdbxException Bool :=
  if WellFormed (utf8 path) then
    systemCall (.stat (utf8 path)) fun t => .ok (fileExists t.now path)
  else
    pure false

/-- What .NET makes of an attempt to open a file: a directory is refused, and a missing
file is blamed on its directory when that does not exist either. -/
def openedCall (path : Str) (full : Bytes) :
    Except Errno FsNode → Action Timeline SystemException FsNode
  | .ok node => if node.isDirectory then throw .unauthorizedAccess else pure node
  | .error .enoent => do
      let directory ← systemCall (.statDirectory (utf8 path)) fun t =>
        .ok (directoryExists t.now (parentPath full))
      throw (missingException directory)
  | .error e => throw (ioException e)

/-- Open a file for reading at its full path. -/
def openFileCall (path : Str) : Action Timeline SystemException FsNode := do
  let (full, opened) ← systemCall (.openFile (utf8 path)) fun t => do
    let full ← (getFullPath t.now (utf8 path)).mapError ioException
    return (full, t.now.openFile full)
  openedCall path full opened

/-- `PwDatabase.Open` by its calls. -/
def pwDatabaseOpenCalls (path password : Str) : Action Timeline SystemException PwGroup := do
  if ¬WellFormed (utf8 path) then
    throw .argument
  let node ← openFileCall path
  let contents ← systemCall (.readOpened (utf8 path)) fun t =>
    (t.contents node).mapError ioException
  ofExcept ((load contents password).mapError LoadException.toSystem)

/-- `Database.OpenWithPassword` by its calls. -/
def openWithPasswordCalls (dbPath password : Str) : Action Timeline KdbxException Database := do
  let present ← fileExistsCall dbPath
  if !present then
    throw (.databaseNotFound dbPath)
  let rootGroup ← mapError (mapOpenException dbPath) (pwDatabaseOpenCalls load dbPath password)
  return { rootGroup := rootGroup }

/-- `Database.Open` by its calls. -/
def Database.openCalls (env : Environment) (dbPath secretStoreKey : Str) :
    Action Timeline Thrown Database := do
  let master ← (LinuxSecretStore.getMasterPassword env secretStoreKey).perform openFull
  mapError Thrown.kdbx (openWithPasswordCalls load dbPath master)

/-! ## Three worlds -/

/-- What .NET makes of an attempt, with the directory looked for in this world. -/
def openedIn (later : World) (full : Bytes) : Except Errno FsNode → Except SystemException FsNode
  | .ok node => if node.isDirectory then .error .unauthorizedAccess else .ok node
  | .error .enoent => .error (missingException (directoryExists later (parentPath full)))
  | .error e => .error (ioException e)

/-- Open a file in one world, with its directory looked for in another. -/
def openFileIn (opened later : World) (path : Str) : Except SystemException FsNode := do
  let full ← (getFullPath opened (utf8 path)).mapError ioException
  openedIn later full (opened.openFile full)

/-- `PwDatabase.Open` with the file opened in one world, its directory looked for in
another, and what the file then yields. -/
def pwDatabaseOpenIn (opened later : World) (yields : FsNode → Except Errno Bytes)
    (path password : Str) : Except SystemException PwGroup := do
  if ¬WellFormed (utf8 path) then
    throw .argument
  let node ← openFileIn opened later path
  let contents ← (yields node).mapError ioException
  (load contents password).mapError LoadException.toSystem

/-- `Database.OpenWithPassword` with the existence test in a world of its own. -/
def checkThenOpen (checked opened later : World) (yields : FsNode → Except Errno Bytes)
    (dbPath password : Str) : Except KdbxException Database := do
  if !fileExists checked dbPath then
    throw (.databaseNotFound dbPath)
  let rootGroup ←
    (pwDatabaseOpenIn load opened later yields dbPath password).mapError (mapOpenException dbPath)
  return { rootGroup := rootGroup }

/-- The calls that can end the opening of a path: the file is read, or its directory is
looked for. -/
def endings (path : Bytes) : List Call :=
  [.readOpened path, .statDirectory path]

/-- The calls of opening a path. -/
structure OpenMade (path : Bytes) (isRead : Prop) (made : List Call) : Prop where
  ordered : ∃ last ∈ endings path, made <+: [.openFile path, last]
  complete : isRead → made = [.openFile path, .readOpened path]

/-- The calls of examining a path and then opening it. -/
structure CallsMade (path : Bytes) (isRead : Prop) (made : List Call) : Prop where
  ordered : ∃ last ∈ endings path, made <+: [.stat path, .openFile path, last]
  complete : isRead → made = [.stat path, .openFile path, .readOpened path]

theorem OpenMade.callsMade {path : Bytes} {isRead : Prop} {made : List Call}
    (opening : OpenMade path isRead made) : CallsMade path isRead (.stat path :: made) where
  ordered := by
    obtain ⟨last, known, begins⟩ := opening.ordered
    exact ⟨last, known, (List.prefix_cons_inj _).mpr begins⟩
  complete opened := congrArg (.stat path :: ·) (opening.complete opened)

variable {dbPath : Str} {checked opened later : World} {yields : FsNode → Except Errno Bytes}

theorem checkThenOpen_of_absent (absent : fileExists checked dbPath = false)
    (opened later : World) (yields : FsNode → Except Errno Bytes) (password : Str) :
    checkThenOpen load checked opened later yields dbPath password =
      .error (.databaseNotFound dbPath) := by
  rw [checkThenOpen, absent]
  rfl

/-- After a successful test the opened file decides the result. -/
theorem checkThenOpen_of_present (present : fileExists checked dbPath = true)
    (opened later : World) (yields : FsNode → Except Errno Bytes) (password : Str) :
    checkThenOpen load checked opened later yields dbPath password =
      ((pwDatabaseOpenIn load opened later yields dbPath password).mapError
        (mapOpenException dbPath)).map fun rootGroup => { rootGroup := rootGroup } := by
  rw [checkThenOpen, present]
  rfl

/-- A file is opened in the world of the first call, and its directory is looked for in
the world of the next. -/
theorem exec_openFileCall (path : Str) (t : Timeline) :
    (∃ node, exec (openFileCall path) t = (.ok node, t.record (.openFile (utf8 path))) ∧
        ∀ later, openFileIn t.now later path = .ok node) ∨
      (∃ exception, exec (openFileCall path) t =
          (.error exception, t.record (.openFile (utf8 path))) ∧
        ∀ later, openFileIn t.now later path = .error exception) ∨
      ∃ exception, exec (openFileCall path) t =
          (.error exception,
            (t.record (.openFile (utf8 path))).record (.statDirectory (utf8 path))) ∧
        openFileIn t.now (t.world (t.calls.length + 1)) path = .error exception := by
  rw [openFileCall, exec_bind, exec_systemCall]
  simp only [openFileIn]
  cases getFullPath t.now (utf8 path) with
  | error e => exact Or.inr (Or.inl ⟨_, rfl, fun _ => rfl⟩)
  | ok full =>
      change (∃ node, exec (openedCall path full (t.now.openFile full)) _ = _ ∧
          ∀ later, openedIn later full (t.now.openFile full) = _) ∨
        (∃ exception, exec (openedCall path full (t.now.openFile full)) _ = _ ∧
          ∀ later, openedIn later full (t.now.openFile full) = _) ∨
        ∃ exception, exec (openedCall path full (t.now.openFile full)) _ = _ ∧
          openedIn _ full (t.now.openFile full) = _
      cases t.now.openFile full with
      | ok node =>
          rw [openedCall]
          simp only [openedIn]
          split_ifs
          · exact Or.inr (Or.inl ⟨_, rfl, fun _ => rfl⟩)
          · exact Or.inl ⟨node, rfl, fun _ => rfl⟩
      | error e =>
          cases e with
          | enoent =>
              refine Or.inr (Or.inr ⟨_, ?_, rfl⟩)
              rw [openedCall, exec_bind, exec_systemCall, Timeline.now_record]
              rfl
          | _ => exact Or.inr (Or.inl ⟨_, rfl, fun _ => rfl⟩)

/-- The file is opened in the world of the first call, and read by the next. -/
theorem exec_pwDatabaseOpenCalls (formed : WellFormed (utf8 dbPath)) (password : Str)
    (t : Timeline) :
    ∃ made, exec (pwDatabaseOpenCalls load dbPath password) t =
        (pwDatabaseOpenIn load t.now (t.world (t.calls.length + 1))
            (t.contentsAt (t.calls.length + 1)) dbPath password,
          { t with calls := t.calls ++ made }) ∧
      OpenMade (utf8 dbPath)
        (∃ tree, (exec (pwDatabaseOpenCalls load dbPath password) t).1 = .ok tree) made := by
  have body : pwDatabaseOpenCalls load dbPath password =
      openFileCall dbPath >>= fun node =>
        systemCall (.readOpened (utf8 dbPath)) (fun t => (t.contents node).mapError ioException) >>=
          fun contents => ofExcept ((load contents password).mapError LoadException.toSystem) := by
    rw [pwDatabaseOpenCalls, if_neg (not_not.mpr formed)]
  have body' : ∀ later yields, pwDatabaseOpenIn load t.now later yields dbPath password =
      openFileIn t.now later dbPath >>= fun node =>
        (yields node).mapError ioException >>= fun contents =>
          (load contents password).mapError LoadException.toSystem := by
    intro later yields
    rw [pwDatabaseOpenIn, if_neg (not_not.mpr formed)]
  rw [body, body']
  rcases exec_openFileCall dbPath t with
    ⟨node, ran, result⟩ | ⟨exception, ran, result⟩ | ⟨exception, ran, result⟩
  · refine ⟨[.openFile (utf8 dbPath), .readOpened (utf8 dbPath)], ?_,
      ⟨_, .head _, List.prefix_rfl⟩, fun _ => rfl⟩
    rw [exec_bind_of_ok ran, exec_bind, exec_systemCall, Timeline.contents_record,
      Timeline.record_record, result]
    change _ = ((t.contentsAt (t.calls.length + 1) node).mapError ioException >>= _, _)
    cases (t.contentsAt (t.calls.length + 1) node).mapError ioException with
    | error e => rfl
    | ok contents => exact exec_ofExcept _ _
  · refine ⟨[.openFile (utf8 dbPath)], ?_, ⟨_, .head _, [_], rfl⟩, ?_⟩
    · rw [exec_bind_of_error ran, result]
      rfl
    · rw [exec_bind_of_error ran]
      rintro ⟨tree, opened⟩
      cases opened
  · refine ⟨[.openFile (utf8 dbPath), .statDirectory (utf8 dbPath)], ?_,
      ⟨_, .tail _ (.head _), List.prefix_rfl⟩, ?_⟩
    · rw [exec_bind_of_error ran, result, Timeline.record_record]
      rfl
    · rw [exec_bind_of_error ran]
      rintro ⟨tree, opened⟩
      cases opened

/-- By its calls the code makes its test in the world of its first call, opens the file
in the world of the next, and reads it or looks for its directory after that. -/
theorem exec_openWithPasswordCalls (dbPath password : Str) (t : Timeline) :
    ∃ made, exec (openWithPasswordCalls load dbPath password) t =
        (checkThenOpen load t.now (t.world (t.calls.length + 1)) (t.world (t.calls.length + 2))
            (t.contentsAt (t.calls.length + 2)) dbPath password,
          { t with calls := t.calls ++ made }) ∧
      CallsMade (utf8 dbPath)
        (∃ db, (exec (openWithPasswordCalls load dbPath password) t).1 = .ok db) made := by
  rw [openWithPasswordCalls, fileExistsCall]
  by_cases formed : WellFormed (utf8 dbPath)
  · rw [if_pos formed, exec_bind, exec_systemCall]
    dsimp only
    cases present : fileExists t.now dbPath with
    | false =>
        refine ⟨[.stat (utf8 dbPath)], ?_, ⟨_, .head _, [_, _], rfl⟩, ?_⟩
        · rw [checkThenOpen_of_absent load present]
          rfl
        · rintro ⟨db, opened⟩
          cases opened
    | true =>
        obtain ⟨made, ran, order⟩ :=
          exec_pwDatabaseOpenCalls load formed password (t.record (.stat (utf8 dbPath)))
        have contents_eq : (t.record (.stat (utf8 dbPath))).contentsAt (t.calls.length + 2) =
            t.contentsAt (t.calls.length + 2) := rfl
        rw [Timeline.now_record, Timeline.world_record, Timeline.length_calls_record,
          contents_eq] at ran
        have calls_eq : (t.record (.stat (utf8 dbPath))).calls ++ made =
            t.calls ++ .stat (utf8 dbPath) :: made := by
          rw [Timeline.calls_record, List.append_assoc]
          rfl
        rw [calls_eq] at ran
        change ∃ made, exec (mapError (mapOpenException dbPath)
          (pwDatabaseOpenCalls load dbPath password) >>= _) _ = _ ∧ CallsMade _ (∃ db,
            (exec (mapError (mapOpenException dbPath)
              (pwDatabaseOpenCalls load dbPath password) >>= _) _).1 = .ok db) made
        rw [exec_bind, exec_mapError, checkThenOpen_of_present load present]
        rw [ran] at order ⊢
        refine ⟨.stat (utf8 dbPath) :: made, ?_, ?_⟩
        · cases pwDatabaseOpenIn load (t.world (t.calls.length + 1))
            (t.world (t.calls.length + 2)) (t.contentsAt (t.calls.length + 2)) dbPath password <;>
            rfl
        · apply OpenMade.callsMade
          cases opened : pwDatabaseOpenIn load (t.world (t.calls.length + 1))
              (t.world (t.calls.length + 2)) (t.contentsAt (t.calls.length + 2)) dbPath
              password with
          | ok tree =>
              rw [opened] at order
              exact ⟨order.ordered, fun _ => order.complete ⟨tree, rfl⟩⟩
          | error exception =>
              refine ⟨order.ordered, ?_⟩
              rintro ⟨db, returned⟩
              cases returned
  · have absent : fileExists t.now dbPath = false :=
      fileExists_of_error (resolveFull_of_illFormed formed)
    refine ⟨[], ?_, ⟨_, .head _, List.nil_prefix⟩, ?_⟩
    · rw [if_neg formed, checkThenOpen_of_absent load absent, List.append_nil]
      rfl
    · rw [if_neg formed]
      rintro ⟨db, opened⟩
      cases opened

end KdbxCredentials.CSharp
