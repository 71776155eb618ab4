import KdbxCredentials.Posix.Timeline
import KdbxCredentials.Rust.Open
import KdbxCredentials.Rust.SecretStore

/-!
# Opening with the stored master password

`open` of `lib.rs` in one world, and the same code as the system calls that it
makes: the credential is read, the path is examined, the file is opened, and it is
read.  A path with a NUL byte is refused by the standard library before any call.
-/

namespace KdbxCredentials.Rust

open KdbxCredentials.Text
open KdbxCredentials.Effects
open KdbxCredentials.Posix

variable (kpOpen : Bytes → Str → Except DatabaseOpenError KpDatabase)

/-- Open the database, authenticating with the master password stored under a
key. -/
def «open» (env : Environment) (w : World) (dbPath : Bytes) (secretStoreKey : Str) :
    Except KdbxError KpDatabase := do
  let master ← (getMasterPassword env secretStoreKey).run w.readFile
  openWithPassword kpOpen w dbPath master

/-! ## The system calls -/

/-- `std::fs::metadata` as a call. -/
def metadataCall (path : Bytes) : Action Timeline ErrorKind FsNode :=
  if nul ∈ path then throw .invalidInput
  else systemCall (.stat path) fun t => metadata t.now path

/-- `File::open` as a call. -/
def fileOpenCall (path : Bytes) : Action Timeline ErrorKind FsNode :=
  if nul ∈ path then throw .invalidInput
  else systemCall (.openFile path) fun t => fileOpen t.now path

/-- `KpDatabase::open` with the call that reads the file. -/
def databaseOpenCall (path : Bytes) (file : FsNode) (password : Str) :
    Action Timeline DatabaseOpenError KpDatabase := do
  let contents ← systemCall (.readOpened path) fun t =>
    (t.contents file).mapError fun e => .io (errorKind e)
  ofExcept (kpOpen contents password)

/-- `open_with_password` by its calls. -/
def openWithPasswordCalls (dbPath : Bytes) (password : Str) :
    Action Timeline KdbxError KpDatabase := do
  let node ← mapError (mapIoError dbPath) (metadataCall dbPath)
  if !node.isRegular then
    throw (.databaseNotFound dbPath)
  let file ← mapError (mapIoError dbPath) (fileOpenCall dbPath)
  mapError mapOpenError (databaseOpenCall kpOpen dbPath file password)

/-- `open` by its calls. -/
def openCalls (env : Environment) (dbPath : Bytes) (secretStoreKey : Str) :
    Action Timeline KdbxError KpDatabase := do
  let master ← (getMasterPassword env secretStoreKey).perform World.openFile
  openWithPasswordCalls kpOpen dbPath master

/-! ## Two worlds -/

/-- `KpDatabase::open` on a file that yields this when it is read. -/
def databaseOpenIn (yields : FsNode → Except Errno Bytes) (file : FsNode) (password : Str) :
    Except DatabaseOpenError KpDatabase := do
  let contents ← (yields file).mapError fun e => .io (errorKind e)
  kpOpen contents password

/-- `open_with_password` with the path examined in one world, the file opened in
another, and what the file then yields. -/
def checkThenOpen (checked opened : World) (yields : FsNode → Except Errno Bytes)
    (dbPath : Bytes) (password : Str) : Except KdbxError KpDatabase := do
  let node ← (metadata checked dbPath).mapError (mapIoError dbPath)
  if !node.isRegular then
    throw (.databaseNotFound dbPath)
  let file ← (fileOpen opened dbPath).mapError (mapIoError dbPath)
  (databaseOpenIn kpOpen yields file password).mapError mapOpenError

/-- In one world, with a file that yields what it holds, this is the function itself. -/
theorem checkThenOpen_same (w : World) (dbPath : Bytes) (password : Str) :
    checkThenOpen kpOpen w w FsNode.read dbPath password =
      openWithPassword kpOpen w dbPath password :=
  rfl

/-- The calls of `open_with_password` when it examines the path and opens it in these
worlds. -/
def callsMade (checked opened : World) (dbPath : Bytes) : List Call :=
  if nul ∈ dbPath then []
  else
    match metadata checked dbPath with
    | .error _ => [.stat dbPath]
    | .ok node =>
        if node.isRegular then
          match fileOpen opened dbPath with
          | .error _ => [.stat dbPath, .openFile dbPath]
          | .ok _ => [.stat dbPath, .openFile dbPath, .readOpened dbPath]
        else [.stat dbPath]

variable {dbPath : Bytes} {checked : World}

theorem checkThenOpen_of_error {kind : ErrorKind} (failed : metadata checked dbPath = .error kind)
    (opened : World) (yields : FsNode → Except Errno Bytes) (password : Str) :
    checkThenOpen kpOpen checked opened yields dbPath password =
      .error (mapIoError dbPath kind) := by
  rw [checkThenOpen, failed]
  rfl

theorem checkThenOpen_of_irregular {node : FsNode} (examined : metadata checked dbPath = .ok node)
    (irregular : node.isRegular = false) (opened : World) (yields : FsNode → Except Errno Bytes)
    (password : Str) :
    checkThenOpen kpOpen checked opened yields dbPath password =
      .error (.databaseNotFound dbPath) := by
  rw [checkThenOpen, examined]
  change (if !node.isRegular then _ else _) = _
  rw [irregular]
  rfl

/-- After a successful check the opened file decides the result. -/
theorem checkThenOpen_of_regular {node : FsNode} (examined : metadata checked dbPath = .ok node)
    (regular : node.isRegular = true) (opened : World) (yields : FsNode → Except Errno Bytes)
    (password : Str) :
    checkThenOpen kpOpen checked opened yields dbPath password =
      ((fileOpen opened dbPath).mapError (mapIoError dbPath) >>= fun file =>
        (databaseOpenIn kpOpen yields file password).mapError mapOpenError) := by
  rw [checkThenOpen, examined]
  change (if !node.isRegular then _ else _) = _
  rw [regular]
  rfl

/-- The reader gets what the file yields at the moment of its call. -/
theorem exec_databaseOpenCall (path : Bytes) (file : FsNode) (password : Str) (t : Timeline) :
    exec (databaseOpenCall kpOpen path file password) t =
      (databaseOpenIn kpOpen t.contents file password, t.record (.readOpened path)) := by
  rw [databaseOpenCall, databaseOpenIn, exec_bind, exec_systemCall]
  cases (t.contents file).mapError fun e => DatabaseOpenError.io (errorKind e) with
  | error error => rfl
  | ok contents => exact exec_ofExcept _ _

/-- By its calls the code examines the path in the world of its first call, opens the
file in the world of the next, and reads it after that. -/
theorem exec_openWithPasswordCalls (dbPath : Bytes) (password : Str) (t : Timeline) :
    exec (openWithPasswordCalls kpOpen dbPath password) t =
      (checkThenOpen kpOpen t.now (t.world (t.calls.length + 1)) (t.contentsAt (t.calls.length + 2))
          dbPath password,
        { t with calls := t.calls ++ callsMade t.now (t.world (t.calls.length + 1)) dbPath }) := by
  rw [openWithPasswordCalls, metadataCall, callsMade]
  by_cases hasNul : nul ∈ dbPath
  · have failed : metadata t.now dbPath = .error .invalidInput := by rw [metadata, if_pos hasNul]
    rw [checkThenOpen_of_error kpOpen failed, if_pos hasNul, if_pos hasNul, List.append_nil]
    rfl
  · rw [if_neg hasNul, if_neg hasNul, exec_bind, exec_mapError, exec_systemCall]
    cases examined : metadata t.now dbPath with
    | error kind =>
        rw [checkThenOpen_of_error kpOpen examined]
        rfl
    | ok node =>
        cases regular : node.isRegular with
        | false =>
            rw [checkThenOpen_of_irregular kpOpen examined regular]
            simp only [Except.mapError, regular]
            rfl
        | true =>
            rw [checkThenOpen_of_regular kpOpen examined regular]
            simp only [Except.mapError, regular]
            change exec (mapError (mapIoError dbPath) (fileOpenCall dbPath) >>= _) _ = _
            rw [fileOpenCall, if_neg hasNul, exec_bind, exec_mapError, exec_systemCall,
              Timeline.now_record]
            cases opened : fileOpen (t.world (t.calls.length + 1)) dbPath with
            | error kind =>
                rw [Timeline.record_record]
                rfl
            | ok file =>
                change exec (mapError mapOpenError (databaseOpenCall kpOpen dbPath file password))
                  ((t.record (.stat dbPath)).record (.openFile dbPath)) = _
                have three : ((t.record (.stat dbPath)).record (.openFile dbPath)).record
                    (.readOpened dbPath) =
                    { t with
                      calls := t.calls ++
                        [.stat dbPath, .openFile dbPath, .readOpened dbPath] } := by
                  simp [Timeline.record]
                rw [exec_mapError, exec_databaseOpenCall, Timeline.contents_record,
                  Timeline.length_calls_record, three]
                rfl

end KdbxCredentials.Rust
