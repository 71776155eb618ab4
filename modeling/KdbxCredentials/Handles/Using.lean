import KdbxCredentials.CSharp.Handles

/-!
# The tools dispose of what they open

However a tool of the C# library ends, the database that it has opened is closed
exactly once and the entry that it has found has lost its fields; its output is
the one that it has without objects.
-/

namespace KdbxCredentials.Handles

open KdbxCredentials.Text
open KdbxCredentials.Effects
open KdbxCredentials.Posix
open KdbxCredentials.Tools
open KdbxCredentials.CSharp

/-- An object that has been disposed of: a database that is closed, once, or an
entry without fields. -/
def Disposed : Handle → Prop
  | .database db closes => db.disposed = true ∧ closes = 1
  | .entry fields => fields = Entry.empty

variable {owned : List (Nat × Handle)} {R : Thrown → Heap Handle → Prop}

/-! ## The methods -/

/-- A database is open when it is returned. -/
theorem isOpen_of_openWithPassword {load : Bytes → Str → Except LoadException PwGroup}
    {w : World} {dbPath password : Str} {db : Database}
    (opened : openWithPassword load w dbPath password = .ok db) : db.disposed = false := by
  cases present : fileExists w dbPath with
  | false =>
      rw [openWithPassword_of_not_exists load password present] at opened
      cases opened
  | true =>
      rw [openWithPassword, present] at opened
      obtain ⟨rootGroup, _, db_eq⟩ := bind_eq_ok_iff.mp opened
      cases db_eq
      rfl

theorem isOpen_of_open {load : Bytes → Str → Except LoadException PwGroup} {env : Environment}
    {w : World} {dbPath key : Str} {db : Database}
    (opened : Database.open load env w dbPath key = .ok db) : db.disposed = false := by
  rw [Database.open] at opened
  obtain ⟨master, _, opened⟩ := bind_eq_ok_iff.mp opened
  exact isOpen_of_openWithPassword (mapError_eq_ok_iff.mp opened)

/-- An open database is closed once when it is disposed of. -/
theorem disposed_database {db : Database} (isOpen : db.disposed = false) :
    Disposed (Handle.database db 0).disposed := by
  rw [Handle.disposed, isOpen]
  exact ⟨rfl, rfl⟩

variable (setting : Setting) (dbPath key entryPath : Str)

theorem ensures_openHandle :
    Ensures (Owns Disposed owned) (openHandle setting dbPath key)
      (fun handle heap => ∃ db,
        Database.open setting.load setting.env setting.world dbPath key = .ok db ∧
          Owns Disposed ((handle, .database db 0) :: owned) heap)
      (fun thrown heap =>
        Database.open setting.load setting.env setting.world dbPath key = .error thrown ∧
          Owns Disposed owned heap) := by
  apply (Ensures.ofExcept _).bind
  intro db
  apply Ensures.fact
  intro opened
  apply (Ensures.alloc _).weaken
  · exact fun _ owns => owns
  · exact fun _ _ owns => ⟨db, opened, owns⟩
  · exact fun _ _ post => post

theorem ensures_lookupHandle {handle : Nat} {db : Database} {closes : Nat}
    (member : (handle, .database db closes) ∈ owned) (upper : Char → Char) :
    Ensures (Owns Disposed owned) (lookupHandle upper handle entryPath)
      (fun entry heap => ∃ fields, db.lookup upper entryPath = .ok fields ∧
        Owns Disposed ((entry, .entry fields) :: owned) heap)
      (fun thrown heap => db.lookup upper entryPath = .error thrown ∧
        Owns Disposed owned heap) := by
  have found : Ensures (Owns Disposed owned) (databaseAt handle)
      (fun found heap => found = db ∧ Owns Disposed owned heap)
      (fun thrown heap => db.lookup upper entryPath = .error thrown ∧
        Owns Disposed owned heap) := by
    apply (Ensures.load member).bind
    intro object
    apply Ensures.fact
    rintro rfl
    exact fun _ owns => ⟨rfl, owns⟩
  apply found.bind
  intro found
  apply Ensures.fact
  rintro rfl
  apply (Ensures.ofExcept _).bind
  intro fields
  apply Ensures.fact
  intro looked
  apply (Ensures.alloc _).weaken
  · exact fun _ owns => owns
  · exact fun _ _ owns => ⟨fields, looked, owns⟩
  · exact fun _ _ post => post

/-- The fields of an entry are read, and the entry loses them. -/
theorem ensures_useEntry {α : Type} {handle : Nat} {fields : Entry} (print : Entry → α) :
    Ensures (Owns Disposed ((handle, .entry fields) :: owned))
      (tryFinally
        (do
          let fields ← entryAt handle
          return print fields)
        (dispose handle))
      (fun output heap => output = print fields ∧ Owns Disposed owned heap) R := by
  have read : Ensures (Owns Disposed ((handle, .entry fields) :: owned))
      (do
        let fields ← entryAt handle
        return print fields)
      (fun output heap => output = print fields ∧
        Owns Disposed ((handle, .entry fields) :: owned) heap)
      (fun _ _ => False) := by
    apply Ensures.bind (Q := fun found heap => found = fields ∧
      Owns Disposed ((handle, .entry fields) :: owned) heap)
    · apply (Ensures.load List.mem_cons_self).bind
      intro object
      apply Ensures.fact
      rintro rfl
      exact fun _ owns => ⟨rfl, owns⟩
    · intro found
      apply Ensures.fact
      rintro rfl
      exact fun _ owns => ⟨rfl, owns⟩
  have emptied : Disposed (Handle.entry fields).disposed := rfl
  apply Ensures.tryFinally read
  · intro output
    apply Ensures.fact
    intro printed
    apply (Ensures.release emptied).weaken
    · exact fun _ owns => owns
    · exact fun _ _ owns => ⟨printed, owns⟩
    · exact fun _ _ post => post
  · exact fun _ _ impossible => impossible.elim

/-- In the scope of an open database the entry is found, used and disposed of. -/
theorem ensures_inScope {handle : Nat} {db : Database} {closes : Nat}
    (member : (handle, .database db closes) ∈ owned) (print : Entry → Output) :
    Ensures (Owns Disposed owned)
      (do
        let entry ← lookupHandle setting.upper handle entryPath
        tryFinally
          (do
            let fields ← entryAt entry
            return print fields)
          (dispose entry))
      (fun output heap => (db.lookup setting.upper entryPath).map print = .ok output ∧
        Owns Disposed owned heap)
      (fun thrown heap => (db.lookup setting.upper entryPath).map print = .error thrown ∧
        Owns Disposed owned heap) := by
  apply Ensures.bind (Q := fun entry heap => ∃ fields,
    db.lookup setting.upper entryPath = .ok fields ∧
      Owns Disposed ((entry, .entry fields) :: owned) heap)
  · apply (ensures_lookupHandle entryPath member setting.upper).weaken
    · exact fun _ owns => owns
    · exact fun _ _ post => post
    · rintro thrown heap ⟨failed, owns⟩
      rw [failed]
      exact ⟨rfl, owns⟩
  · intro entry
    apply Ensures.ofExists
    intro fields
    apply Ensures.fact
    intro looked
    apply (ensures_useEntry print).weaken
    · exact fun _ owns => owns
    · rintro output heap ⟨rfl, owns⟩
      rw [looked]
      exact ⟨rfl, owns⟩
    · exact fun _ _ post => post

/-- The outcome is the one without objects, and every new object is disposed of. -/
theorem ensures_withEntry (print : Entry → Output) :
    Ensures (Owns Disposed owned) (withEntry setting dbPath key entryPath print)
      (fun output heap => (setting.fetch dbPath key entryPath).map print = .ok output ∧
        Owns Disposed owned heap)
      (fun thrown heap => (setting.fetch dbPath key entryPath).map print = .error thrown ∧
        Owns Disposed owned heap) := by
  apply Ensures.bind (Q := fun handle heap => ∃ db,
    Database.open setting.load setting.env setting.world dbPath key = .ok db ∧
      Owns Disposed ((handle, .database db 0) :: owned) heap)
  · apply (ensures_openHandle setting dbPath key).weaken
    · exact fun _ owns => owns
    · exact fun _ _ post => post
    · rintro thrown heap ⟨failed, owns⟩
      refine ⟨?_, owns⟩
      rw [Setting.fetch, failed]
      rfl
  · intro handle
    apply Ensures.ofExists
    intro db
    apply Ensures.fact
    intro opened
    have fetch_eq : setting.fetch dbPath key entryPath = db.lookup setting.upper entryPath := by
      rw [Setting.fetch, opened]
      rfl
    have closed := disposed_database (isOpen_of_open opened)
    rw [fetch_eq]
    apply Ensures.tryFinally (ensures_inScope setting entryPath List.mem_cons_self print)
    · intro output
      apply Ensures.fact
      intro looked
      apply (Ensures.release closed).weaken
      · exact fun _ owns => owns
      · exact fun _ _ owns => ⟨looked, owns⟩
      · exact fun _ _ post => post
    · intro thrown
      apply Ensures.fact
      intro failed
      apply (Ensures.release closed).weaken
      · exact fun _ owns => owns
      · exact fun _ _ owns => ⟨failed, owns⟩
      · exact fun _ _ post => post

/-! ## The tools -/

/-- With its objects the program ends as it does without them, and leaves only
objects that have been disposed of. -/
structure Tidy (held : Held Output) (program : Program) : Prop where
  result : (exec held []).1 = program.mapError Thrown.system
  disposed : ∀ handle ∈ (exec held []).2, Disposed handle

theorem tidy_return (output : Output) : Tidy (return output) (.ok output) where
  result := rfl
  disposed := by
    intro handle member
    cases member

/-- What a tool does with an entry is tidy, whether or not there is an entry. -/
theorem tidy_withEntry (print : Entry → Output) :
    Tidy (tryCatch (withEntry setting dbPath key entryPath print) reportKdbx)
      (catchKdbx do
        let entry ← setting.fetch dbPath key entryPath
        return print entry) := by
  have program_eq : (do
      let entry ← setting.fetch dbPath key entryPath
      return print entry) = (setting.fetch dbPath key entryPath).map print := by
    cases setting.fetch dbPath key entryPath <;> rfl
  rw [program_eq]
  have empty : Owns Disposed [] [] := Owns.nil_iff.mpr fun handle member => by cases member
  have ended : Ensures (Owns Disposed []) (withEntry setting dbPath key entryPath print) _ _ :=
    ensures_withEntry setting dbPath key entryPath print
  generalize (setting.fetch dbPath key entryPath).map print = fetched at ended ⊢
  rcases ran : exec (withEntry setting dbPath key entryPath print) [] with ⟨result, heap⟩
  cases result with
  | ok output =>
      obtain ⟨rfl, owns⟩ := ended.of_ok empty ran
      have run : exec (tryCatch (withEntry setting dbPath key entryPath print) reportKdbx) [] =
          (.ok output, heap) := by rw [exec_tryCatch, ran]
      exact ⟨by rw [run]; rfl, by rw [run]; exact Owns.nil_iff.mp owns⟩
  | error thrown =>
      obtain ⟨rfl, owns⟩ := ended.of_error empty ran
      have run : exec (tryCatch (withEntry setting dbPath key entryPath print) reportKdbx) [] =
          exec (reportKdbx thrown) heap := by rw [exec_tryCatch, ran]
      cases thrown with
      | kdbx exception => exact ⟨by rw [run]; rfl, by rw [run]; exact Owns.nil_iff.mp owns⟩
      | system exception => exact ⟨by rw [run]; rfl, by rw [run]; exact Owns.nil_iff.mp owns⟩

/-- Whatever the arguments, each tool ends as it does without objects and disposes
of all that it has opened. -/
theorem tools_dispose (setting : Setting) (args : List Str) :
    Tidy (getPassHeld setting args) (getPass setting args) ∧
      Tidy (getFieldHeld setting args) (getField setting args) ∧
      Tidy (lookupToolHeld setting args) (lookupTool setting args) := by
  rcases args with _ | ⟨dbPath, _ | ⟨key, _ | ⟨entryPath, _ | ⟨name, _ | ⟨extra, rest⟩⟩⟩⟩⟩
  · exact ⟨tidy_return _, tidy_return _, tidy_return _⟩
  · exact ⟨tidy_return _, tidy_return _, tidy_return _⟩
  · exact ⟨tidy_return _, tidy_return _, tidy_return _⟩
  · exact ⟨tidy_withEntry .., tidy_return _, tidy_withEntry ..⟩
  · refine ⟨tidy_return _, ?_, tidy_return _⟩
    rw [getFieldHeld, getField]
    cases knownField (setting.toLowerInvariant name) with
    | true => exact tidy_withEntry ..
    | false => exact tidy_return _
  · exact ⟨tidy_return _, tidy_return _, tidy_return _⟩

end KdbxCredentials.Handles
