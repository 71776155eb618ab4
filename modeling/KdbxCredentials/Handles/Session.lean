import KdbxCredentials.Handles.Using
import KdbxCredentials.Tools.Agreement

/-!
# Sessions with handles

A caller opens databases, looks up and reads entries and disposes of both, in any
order and more than once.  What a call answers is decided by the object it is made
on: by what that object was made from, and by whether it has been disposed of
since; the other calls play no part.
-/

namespace KdbxCredentials.Handles

open KdbxCredentials.Text
open KdbxCredentials.Effects
open KdbxCredentials.Posix
open KdbxCredentials.CSharp

/-- A call of the library.  The file system can be another one for each opening. -/
inductive Command
  | open (world : World) (dbPath key : Str)
  | lookup (database : Nat) (path : Str)
  | read (entry : Nat)
  | dispose (handle : Nat)

inductive Answer
  | handle (handle : Nat)
  | fields (fields : Entry)
  | done

variable (setting : Setting)

def perform : Command → Held Answer
  | .open world dbPath key => do
      let handle ← openHandle { setting with world := world } dbPath key
      return .handle handle
  | .lookup database path => do
      let handle ← lookupHandle setting.upper database path
      return .handle handle
  | .read entry => do
      let fields ← entryAt entry
      return .fields fields
  | .dispose handle => do
      CSharp.dispose handle
      return .done

/-- The answer to a call. -/
def answer (heap : Heap Handle) (command : Command) : Except Thrown Answer :=
  (exec (perform setting command) heap).1

/-- The objects after a call. -/
def after (heap : Heap Handle) (command : Command) : Heap Handle :=
  (exec (perform setting command) heap).2

/-- The objects after the calls of a session. -/
def session (heap : Heap Handle) (commands : List Command) : Heap Handle :=
  commands.foldl (after setting) heap

/-- The call disposes of the object. -/
def disposes (handle : Nat) : Command → Bool
  | .dispose disposedOf => disposedOf == handle
  | _ => false

variable {heap : Heap Handle} {handle : Nat}

/-! ## One call -/

theorem disposed_disposed (object : Handle) : object.disposed.disposed = object.disposed := by
  cases object with
  | database db closes =>
      cases isOpen : db.disposed <;> simp [Handle.disposed, isOpen]
  | entry fields => rfl

/-- Opening makes a new object, or throws and makes none. -/
theorem exec_open (heap : Heap Handle) (w : World) (dbPath key : Str) :
    (∃ db, Database.open setting.load setting.env w dbPath key = .ok db ∧
        answer setting heap (.open w dbPath key) = .ok (.handle heap.length) ∧
        after setting heap (.open w dbPath key) = heap ++ [.database db 0]) ∨
      ∃ thrown, Database.open setting.load setting.env w dbPath key = .error thrown ∧
        answer setting heap (.open w dbPath key) = .error thrown ∧
        after setting heap (.open w dbPath key) = heap := by
  rw [answer, after, perform, openHandle, exec_bind, exec_bind, exec_ofExcept]
  dsimp only
  cases Database.open setting.load setting.env w dbPath key with
  | ok db => exact Or.inl ⟨db, rfl, rfl, rfl⟩
  | error thrown => exact Or.inr ⟨thrown, rfl, rfl, rfl⟩

/-- A database that is there is looked up, which makes a new object or throws. -/
theorem exec_lookup {db : Database} {closes : Nat}
    (there : heap[handle]? = some (.database db closes)) (path : Str) :
    (∃ fields, db.lookup setting.upper path = .ok fields ∧
        answer setting heap (.lookup handle path) = .ok (.handle heap.length) ∧
        after setting heap (.lookup handle path) = heap ++ [.entry fields]) ∨
      ∃ thrown, db.lookup setting.upper path = .error thrown ∧
        answer setting heap (.lookup handle path) = .error thrown := by
  have found : exec (databaseAt handle) heap = (.ok db, heap) := by
    rw [databaseAt, exec_bind, exec_load, there]
    rfl
  rw [answer, after, perform, lookupHandle, exec_bind, exec_bind_of_ok found, exec_bind,
    exec_ofExcept]
  cases db.lookup setting.upper path with
  | ok fields => exact Or.inl ⟨fields, rfl, rfl, rfl⟩
  | error thrown => exact Or.inr ⟨thrown, rfl, rfl⟩

/-- An entry that is there is read. -/
theorem answer_read {fields : Entry} (there : heap[handle]? = some (.entry fields)) :
    answer setting heap (.read handle) = .ok (.fields fields) := by
  rw [answer, perform, exec_bind, entryAt, exec_bind, exec_load, there]
  rfl

/-- Looking at an object changes none. -/
theorem exec_databaseAt_snd (heap : Heap Handle) (handle : Nat) :
    (exec (databaseAt handle) heap).2 = heap := by
  rw [databaseAt, exec_bind, exec_load]
  rcases heap[handle]? with _ | ⟨db, closes⟩ | fields <;> rfl

theorem exec_entryAt_snd (heap : Heap Handle) (handle : Nat) :
    (exec (entryAt handle) heap).2 = heap := by
  rw [entryAt, exec_bind, exec_load]
  rcases heap[handle]? with _ | ⟨db, closes⟩ | fields <;> rfl

/-- A call disposes of an object, makes a new one, or leaves the objects alone. -/
theorem after_cases (heap : Heap Handle) (command : Command) :
    (∃ disposedOf, command = .dispose disposedOf ∧
        after setting heap command = heap.modify disposedOf Handle.disposed) ∨
      (∀ disposedOf, command ≠ .dispose disposedOf) ∧
        ∃ new, after setting heap command = heap ++ new := by
  cases command with
  | dispose disposedOf => exact Or.inl ⟨disposedOf, rfl, rfl⟩
  | «open» w dbPath key =>
      right
      rcases exec_open setting heap w dbPath key with ⟨db, _, _, made⟩ | ⟨thrown, _, _, none⟩
      · exact ⟨by simp, _, made⟩
      · exact ⟨by simp, [], by rw [none, List.append_nil]⟩
  | lookup database path =>
      right
      refine ⟨by simp, ?_⟩
      have kept := exec_databaseAt_snd heap database
      rw [after, perform, lookupHandle, exec_bind, exec_bind]
      rcases ran : exec (databaseAt database) heap with ⟨result, heap'⟩
      rw [ran] at kept
      cases kept
      cases result with
      | error thrown => exact ⟨[], (List.append_nil heap').symm⟩
      | ok db =>
          dsimp only
          rw [exec_bind, exec_ofExcept]
          cases db.lookup setting.upper path with
          | error thrown => exact ⟨[], (List.append_nil heap').symm⟩
          | ok fields => exact ⟨_, rfl⟩
  | read entry =>
      right
      refine ⟨by simp, [], ?_⟩
      have kept := exec_entryAt_snd heap entry
      rw [after, perform, exec_bind]
      rcases ran : exec (entryAt entry) heap with ⟨result, heap'⟩
      rw [ran] at kept
      cases kept
      rw [List.append_nil]
      cases result <;> rfl

/-- A call leaves an object alone unless it disposes of it. -/
theorem object_after {object : Handle} (there : heap[handle]? = some object)
    (command : Command) :
    (after setting heap command)[handle]? =
      some (if disposes handle command then object.disposed else object) := by
  rcases after_cases setting heap command with
    ⟨disposedOf, rfl, after_eq⟩ | ⟨other, new, after_eq⟩
  · rw [after_eq, disposes]
    by_cases same : disposedOf = handle
    · rw [same, List.getElem?_modify_eq, there]
      simp
    · rw [List.getElem?_modify_ne _ _ same, there]
      simp [same]
  · have kept : disposes handle command = false := by
      cases command with
      | dispose disposedOf => exact absurd rfl (other disposedOf)
      | _ => rfl
    rw [after_eq, kept, List.getElem?_append_left (List.getElem?_eq_some_iff.mp there).1, there]
    rfl

/-! ## Sessions -/

/-- After a session an object is as it was, or disposed of, as the session says. -/
theorem object_session {object : Handle} (there : heap[handle]? = some object)
    (commands : List Command) :
    (session setting heap commands)[handle]? =
      some (if commands.any (disposes handle) then object.disposed else object) := by
  induction commands generalizing heap object with
  | nil => exact there
  | cons command rest ih =>
      rw [session, List.foldl_cons, List.any_cons]
      have next := ih (object_after setting there command)
      rw [session] at next
      rw [next]
      cases disposes handle command <;> cases rest.any (disposes handle) <;>
        simp [disposed_disposed]

/-- The life of a database: opened under a handle, it is looked up as long as it
has not been disposed of, and closed once when it is; an entry found in it keeps
its fields until it is itself disposed of. -/
structure Lives (heap : Heap Handle) (handle : Nat) (db : Database) : Prop where
  closed : ∀ commands, (session setting heap commands)[handle]? =
    some (if commands.any (disposes handle) then .database { db with disposed := true } 1
      else .database db 0)
  refused : ∀ commands path, commands.any (disposes handle) = true →
    answer setting (session setting heap commands) (.lookup handle path) =
      .error (.system .objectDisposed)
  failed : ∀ commands path thrown, commands.any (disposes handle) = false →
    db.lookup setting.upper path = .error thrown →
    answer setting (session setting heap commands) (.lookup handle path) = .error thrown
  found : ∀ commands path fields, commands.any (disposes handle) = false →
    db.lookup setting.upper path = .ok fields →
    ∃ entry, answer setting (session setting heap commands) (.lookup handle path) =
        .ok (.handle entry) ∧
      ∀ later, answer setting
          (session setting (after setting (session setting heap commands) (.lookup handle path))
            later) (.read entry) =
        .ok (.fields (if later.any (disposes entry) then Entry.empty else fields))

/-- A database that is disposed of refuses every lookup. -/
theorem lookup_of_disposed {upper : Char → Char} {db : Database} (closed : db.disposed = true)
    (path : Str) : db.lookup upper path = .error (.system .objectDisposed) := by
  rw [Database.lookup, closed]
  rfl

/-- An open database that is there lives such a life. -/
theorem lives_of_there {db : Database} (there : heap[handle]? = some (.database db 0))
    (isOpen : db.disposed = false) : Lives setting heap handle db := by
  have closed : (Handle.database db 0).disposed = .database { db with disposed := true } 1 := by
    rw [Handle.disposed, isOpen]
    rfl
  have objects : ∀ commands, (session setting heap commands)[handle]? =
      some (if commands.any (disposes handle) then .database { db with disposed := true } 1
        else .database db 0) := by
    intro commands
    rw [object_session setting there, closed]
  have alive : ∀ {commands : List Command}, commands.any (disposes handle) = false →
      (session setting heap commands)[handle]? = some (.database db 0) := by
    intro commands kept
    rw [objects, kept]
    rfl
  constructor
  · exact objects
  · intro commands path disposed
    have gone := objects commands
    rw [disposed, if_pos rfl] at gone
    rcases exec_lookup setting gone path with ⟨fields, found, _⟩ | ⟨thrown, failed, refused⟩
    · rw [lookup_of_disposed rfl] at found
      cases found
    · rw [lookup_of_disposed rfl] at failed
      cases failed
      exact refused
  · intro commands path thrown kept failed
    rcases exec_lookup setting (alive kept) path with ⟨fields, found, _⟩ | ⟨thrown', same, answered⟩
    · rw [failed] at found
      cases found
    · rw [failed] at same
      cases same
      exact answered
  · intro commands path fields kept looked
    rcases exec_lookup setting (alive kept) path with
      ⟨fields', found, answered, after_eq⟩ | ⟨thrown, failed, _⟩
    · rw [looked] at found
      cases found
      refine ⟨_, answered, fun later => ?_⟩
      have entry : (session setting
          (after setting (session setting heap commands) (.lookup handle path))
          later)[(session setting heap commands).length]? =
            some (if later.any (disposes (session setting heap commands).length)
              then .entry Entry.empty else .entry fields) := by
        apply object_session setting
        rw [after_eq]
        simp
      rw [← apply_ite Handle.entry] at entry
      exact answer_read setting entry
    · rw [looked] at failed
      cases failed

/-- Every database that is opened lives such a life. -/
theorem lives_of_open (setting : Setting) (heap : Heap Handle) (w : World) (dbPath key : Str)
    {handle : Nat}
    (opened : answer setting heap (.open w dbPath key) = .ok (.handle handle)) :
    ∃ db, Database.open setting.load setting.env w dbPath key = .ok db ∧
      Lives setting (after setting heap (.open w dbPath key)) handle db := by
  rcases exec_open setting heap w dbPath key with
    ⟨db, success, made, after_eq⟩ | ⟨thrown, _, failed, _⟩
  · rw [opened] at made
    cases made
    have there : (after setting heap (.open w dbPath key))[heap.length]? =
        some (.database db 0) := by
      rw [after_eq]
      simp
    exact ⟨db, success, lives_of_there setting there (isOpen_of_open success)⟩
  · rw [opened] at failed
    cases failed

/-! ## The file `/vault` -/

theorem answer_open_vault :
    answer Tools.vaultSetting' [] (.open Opening.vaultWorld "/vault".toList
      "kdbx-master".toList) = .ok (.handle 0) := by
  have secret : (LinuxSecretStore.getMasterPassword Tools.vaultSetting'.env
      "kdbx-master".toList).run (readFull Opening.vaultWorld) = .ok "pw".toList := by decide
  rcases exec_open Tools.vaultSetting' [] Opening.vaultWorld "/vault".toList
    "kdbx-master".toList with ⟨_, _, made, _⟩ | ⟨thrown, failed, _, _⟩
  · exact made
  · rw [Database.open, secret] at failed
    cases failed

theorem lives_of_open_vault :
    ∃ db, Database.open Tools.vaultSetting'.load Tools.vaultSetting'.env Opening.vaultWorld
        "/vault".toList "kdbx-master".toList = .ok db ∧
      Lives Tools.vaultSetting'
        (after Tools.vaultSetting' [] (.open Opening.vaultWorld "/vault".toList
          "kdbx-master".toList)) 0 db :=
  lives_of_open Tools.vaultSetting' [] Opening.vaultWorld "/vault".toList "kdbx-master".toList
    answer_open_vault

end KdbxCredentials.Handles
