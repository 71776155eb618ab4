import KdbxCredentials.Descent.Simulation
import KdbxCredentials.Effects.Relational
import KdbxCredentials.Handles.Session

/-!
# Sessions reveal no field values

Two vaults that have the same groups, titles and fields present, and differ in
the values of the fields, cannot be told apart in a session by a caller who sees
the handles and exceptions that calls answer with, and of an entry its
`ToString`.
-/

namespace KdbxCredentials.Handles

open KdbxCredentials.Text
open KdbxCredentials.Descent
open KdbxCredentials.Effects
open KdbxCredentials.Posix
open KdbxCredentials.CSharp

/-! ## Vaults of one shape -/

/-- Entries with the same title and the same built-in fields present. -/
structure SameStrings (e e' : PwEntry) : Prop where
  title : e.strings.readSafe titleField = e'.strings.readSafe titleField
  username : e.strings.exists userNameField = e'.strings.exists userNameField
  password : e.strings.exists passwordField = e'.strings.exists passwordField
  url : e.strings.exists urlField = e'.strings.exists urlField
  notes : e.strings.exists notesField = e'.strings.exists notesField

/-- Trees of the same shape and names, with the same fields present. -/
inductive SameTree : PwGroup → PwGroup → Prop
  | group {name : Str} {groups groups' : List PwGroup} {entries entries' : List PwEntry} :
      List.Forall₂ SameTree groups groups' → List.Forall₂ SameStrings entries entries' →
        SameTree ⟨name, groups, entries⟩ ⟨name, groups', entries'⟩

/-- Entries with the same fields present. -/
structure SamePresence (fields fields' : Entry) : Prop where
  username : fields.username.isNone = fields'.username.isNone
  password : fields.password.isNone = fields'.password.isNone
  url : fields.url.isNone = fields'.url.isNone
  notes : fields.notes.isNone = fields'.notes.isNone

/-- Open databases, or closed ones, of the same shape. -/
structure SameDatabase (db db' : Database) : Prop where
  tree : SameTree db.rootGroup db'.rootGroup
  disposed : db.disposed = db'.disposed

inductive SameHandle : Handle → Handle → Prop
  | database {db db' : Database} (closes : Nat) :
      SameDatabase db db' → SameHandle (.database db closes) (.database db' closes)
  | entry {fields fields' : Entry} :
      SamePresence fields fields' → SameHandle (.entry fields) (.entry fields')

/-- What the two callers run with is the same, but for the values of the fields that
are read from a file. -/
structure SameVaults (setting setting' : Setting) : Prop where
  env : setting.env = setting'.env
  upper : setting.upper = setting'.upper
  loads : ∀ contents password,
    SameResult SameTree (setting.load contents password) (setting'.load contents password)

/-! ## Lookups -/

theorem redacted_eq {v v' : Option Str} (same : v.isNone = v'.isNone) :
    redacted v = redacted v' := by
  rw [redacted, redacted, same]

/-- `ToString` shows which fields are present and nothing else. -/
theorem SamePresence.toString_eq {fields fields' : Entry} (same : SamePresence fields fields') :
    fields.toString = fields'.toString := by
  rw [Entry.toString, Entry.toString, redacted_eq same.username, redacted_eq same.password,
    redacted_eq same.url, redacted_eq same.notes]

/-- A field is absent when its key is. -/
theorem isNone_field (e : PwEntry) (key : Str) :
    (field e key).isNone = !e.strings.exists key := by
  rw [field]
  cases e.strings.exists key <;> rfl

theorem SameStrings.buildEntry {e e' : PwEntry} (same : SameStrings e e') :
    SamePresence (buildEntry e) (buildEntry e') := by
  constructor
  · rw [CSharp.buildEntry, CSharp.buildEntry, isNone_field, isNone_field, same.username]
  · rw [CSharp.buildEntry, CSharp.buildEntry, isNone_field, isNone_field, same.password]
  · rw [CSharp.buildEntry, CSharp.buildEntry, isNone_field, isNone_field, same.url]
  · rw [CSharp.buildEntry, CSharp.buildEntry, isNone_field, isNone_field, same.notes]

variable (upper : Char → Char)

theorem SameTree.groupCandidates {group group' : PwGroup} (same : SameTree group group')
    (segment : Str) :
    List.Forall₂ SameTree (groupCandidates upper group segment)
      (groupCandidates upper group' segment) := by
  cases same with
  | group groups entries =>
      apply List.rel_filter _ groups
      intro child child' sameChild
      cases sameChild
      rfl

theorem SameTree.matchingEntries {group group' : PwGroup} (same : SameTree group group')
    (title : Str) :
    List.Forall₂ SameStrings (matchingEntries upper group title)
      (matchingEntries upper group' title) := by
  cases same with
  | group groups entries =>
      apply List.rel_filter _ entries
      intro e e' sameStrings
      simp only [sameStrings.title]

/-- The walks through two trees of one shape end at related groups. -/
theorem SameTree.walk {group group' : PwGroup} (same : SameTree group group')
    (segments : List Str) :
    Option.Rel SameTree (walk upper group segments) (walk upper group' segments) := by
  rw [walk_eq_descend, walk_eq_descend]
  apply descend_rel (S := Eq) _ same (List.forall₂_same.mpr fun _ _ => rfl)
  rintro node node' segment _ sameNode rfl
  exact head?_rel (sameNode.groupCandidates upper segment)

theorem SameDatabase.found {db db' : Database} (same : SameDatabase db db')
    (parsed : ParsedPath) :
    List.Forall₂ SameStrings (db.found upper parsed) (db'.found upper parsed) := by
  have walks := same.tree.walk upper parsed.groups
  rw [Database.found, Database.found]
  generalize walk upper db.rootGroup parsed.groups = reached at walks ⊢
  generalize walk upper db'.rootGroup parsed.groups = reached' at walks ⊢
  cases walks with
  | none => exact List.Forall₂.nil
  | some sameGroup => exact sameGroup.matchingEntries upper parsed.title

/-- Lookups in two vaults of one shape throw the same or give the same presence. -/
theorem SameDatabase.lookup {db db' : Database} (same : SameDatabase db db') (path : Str) :
    SameResult SamePresence (db.lookup upper path) (db'.lookup upper path) := by
  cases disposed : db.disposed with
  | true =>
      rw [lookup_of_disposed disposed, lookup_of_disposed (same.disposed.symm.trans disposed)]
      exact .error _
  | false =>
      have disposed' := same.disposed.symm.trans disposed
      cases parsed : parse upper path with
      | error exception =>
          rw [Database.lookup_of_parse_error disposed parsed,
            Database.lookup_of_parse_error disposed' parsed]
          exact .error _
      | ok segments =>
          rw [Database.lookup_eq_outcome disposed parsed,
            Database.lookup_eq_outcome disposed' parsed]
          have found := same.found upper segments
          generalize db.found upper segments = matched at found ⊢
          generalize db'.found upper segments = matched' at found ⊢
          cases found with
          | nil => exact .error _
          | cons first rest =>
              cases rest with
              | nil => exact .ok first.buildEntry
              | cons _ _ => exact .error _

/-! ## Openings -/

variable {setting setting' : Setting}

theorem SameVaults.openWithPassword (same : SameVaults setting setting') (w : World)
    (dbPath password : Str) :
    SameResult SameDatabase (openWithPassword setting.load w dbPath password)
      (openWithPassword setting'.load w dbPath password) := by
  cases present : fileExists w dbPath with
  | false =>
      rw [openWithPassword_of_not_exists setting.load password present,
        openWithPassword_of_not_exists setting'.load password present]
      exact .error _
  | true =>
      have loaded : SameResult SameTree (pwDatabaseOpen setting.load w dbPath password)
          (pwDatabaseOpen setting'.load w dbPath password) := by
        rw [pwDatabaseOpen, pwDatabaseOpen]
        by_cases formed : WellFormed (utf8 dbPath)
        · rw [if_neg (not_not.mpr formed), if_neg (not_not.mpr formed)]
          apply SameResult.bind (V := Eq)
          · cases (readFull w (utf8 dbPath)).mapError ioException with
            | ok contents => exact .ok rfl
            | error system => exact .error system
          · rintro contents _ rfl
            exact (same.loads contents password).mapError _
        · rw [if_pos formed, if_pos formed]
          exact .error _
      rw [CSharp.openWithPassword, CSharp.openWithPassword, present]
      apply (loaded.mapError _).bind
      exact fun rootGroup rootGroup' tree => .ok ⟨tree, rfl⟩

theorem SameVaults.open (same : SameVaults setting setting') (w : World) (dbPath key : Str) :
    SameResult SameDatabase (Database.open setting.load setting.env w dbPath key)
      (Database.open setting'.load setting'.env w dbPath key) := by
  rw [Database.open, Database.open, same.env]
  apply SameResult.bind (V := Eq)
  · cases (LinuxSecretStore.getMasterPassword setting'.env key).run (readFull w) with
    | ok master => exact .ok rfl
    | error thrown => exact .error thrown
  · rintro master _ rfl
    exact (same.openWithPassword w dbPath master).mapError _

/-! ## Calls -/

/-- What a caller sees of an answer who logs entries by their `ToString`. -/
inductive Shown
  | handle (handle : Nat)
  | text (text : String)
  | done
  deriving DecidableEq, Repr

def Answer.shown : Answer → Shown
  | .handle number => .handle number
  | .fields entry => .text entry.toString
  | .done => .done

/-- Answers that look alike. -/
def SameAnswer (given given' : Answer) : Prop :=
  given.shown = given'.shown

theorem disposed_rel (object object' : Handle) (same : SameHandle object object') :
    SameHandle object.disposed object'.disposed := by
  cases same with
  | entry _ => exact SameHandle.entry ⟨rfl, rfl, rfl, rfl⟩
  | @database db db' closes sameDatabase =>
      rw [Handle.disposed, Handle.disposed, sameDatabase.disposed]
      split_ifs
      · exact SameHandle.database closes sameDatabase
      · exact SameHandle.database (closes + 1) ⟨sameDatabase.tree, rfl⟩

theorem inStep_databaseAt (handle : Nat) :
    InStep (List.Forall₂ SameHandle) (databaseAt handle) (databaseAt handle) SameDatabase
      (List.Forall₂ SameHandle) := by
  apply (InStep.load handle).bind
  intro object object' same
  cases same with
  | none => exact InStep.throw _
  | some sameHandle =>
      cases sameHandle with
      | database closes sameDatabase => exact InStep.pure sameDatabase
      | entry _ => exact InStep.throw _

theorem inStep_entryAt (handle : Nat) :
    InStep (List.Forall₂ SameHandle) (entryAt handle) (entryAt handle) SamePresence
      (List.Forall₂ SameHandle) := by
  apply (InStep.load handle).bind
  intro object object' same
  cases same with
  | none => exact InStep.throw _
  | some sameHandle =>
      cases sameHandle with
      | database _ _ => exact InStep.throw _
      | entry samePresence => exact InStep.pure samePresence

/-- Each call keeps the objects alike and answers alike. -/
theorem inStep_perform (same : SameVaults setting setting') (command : Command) :
    InStep (List.Forall₂ SameHandle) (perform setting command) (perform setting' command)
      SameAnswer (List.Forall₂ SameHandle) := by
  cases command with
  | «open» w dbPath key =>
      apply InStep.bind (V := Eq) (Q := List.Forall₂ SameHandle)
      · apply (InStep.ofExcept (same.open w dbPath key)).bind
        exact fun db db' sameDatabase => InStep.alloc (SameHandle.database 0 sameDatabase)
      · rintro handle _ rfl
        exact InStep.pure rfl
  | lookup database path =>
      apply InStep.bind (V := Eq) (Q := List.Forall₂ SameHandle)
      · apply (inStep_databaseAt database).bind
        intro db db' sameDatabase
        rw [same.upper]
        apply (InStep.ofExcept (sameDatabase.lookup setting'.upper path)).bind
        exact fun fields fields' samePresence => InStep.alloc (SameHandle.entry samePresence)
      · rintro handle _ rfl
        exact InStep.pure rfl
  | read entry =>
      apply (inStep_entryAt entry).bind
      intro fields fields' samePresence
      exact InStep.pure (congrArg Shown.text samePresence.toString_eq)
  | dispose handle =>
      apply (InStep.update disposed_rel handle).bind
      exact fun _ _ _ => InStep.pure rfl

/-! ## Sessions -/

/-- What the caller sees of each call of a session. -/
def transcript (setting : Setting) : Heap Handle → List Command → List (Except Thrown Shown)
  | _, [] => []
  | heap, command :: rest =>
      (answer setting heap command).map Answer.shown ::
        transcript setting (after setting heap command) rest

/-- Results that look alike are shown alike. -/
theorem map_shown_eq {result result' : Except Thrown Answer}
    (same : SameResult SameAnswer result result') :
    result.map Answer.shown = result'.map Answer.shown := by
  cases same with
  | ok sameAnswer => exact congrArg Except.ok sameAnswer
  | error thrown => rfl

/-- Sessions that start with objects that are alike look alike. -/
theorem transcript_eq (same : SameVaults setting setting') {heap heap' : Heap Handle}
    (related : List.Forall₂ SameHandle heap heap') (commands : List Command) :
    transcript setting heap commands = transcript setting' heap' commands := by
  induction commands generalizing heap heap' with
  | nil => rfl
  | cons command rest ih =>
      obtain ⟨answers, objects⟩ := inStep_perform same command heap heap' related
      rw [transcript, transcript, after, after, ih objects, answer, answer,
        map_shown_eq answers]

/-- In no session can a caller who sees entries by their `ToString` tell two vaults
apart that differ in the values of the fields. -/
theorem sessions_reveal_no_values (same : SameVaults setting setting')
    (commands : List Command) :
    transcript setting [] commands = transcript setting' [] commands :=
  transcript_eq same List.Forall₂.nil commands

/-! ## One entry with two passwords -/

/-- A vault with one entry `web/mail` and the given password. -/
def mailVault (password : Str) : PwGroup where
  name := []
  groups :=
    [{ name := "web".toList
       groups := []
       entries :=
         [⟨⟨fun key =>
           if key = titleField then some "mail".toList
           else if key = passwordField then some password
           else none⟩⟩] }]
  entries := []

/-- The library beside such a vault. -/
def mailSetting (password : Str) : Setting :=
  { Tools.vaultSetting' with load := fun _ _ => .ok (mailVault password) }

theorem sameVaults_mail (password password' : Str) :
    SameVaults (mailSetting password) (mailSetting password') where
  env := rfl
  upper := rfl
  loads _ _ := by
    apply SameResult.ok
    apply SameTree.group _ List.Forall₂.nil
    apply List.Forall₂.cons _ List.Forall₂.nil
    exact SameTree.group List.Forall₂.nil
      (List.Forall₂.cons ⟨rfl, rfl, rfl, rfl, rfl⟩ List.Forall₂.nil)

theorem sessions_reveal_no_values_mail :
    transcript (mailSetting "old".toList) []
        [.open Opening.vaultWorld "/vault".toList "kdbx-master".toList,
          .lookup 0 "web/mail".toList, .read 1, .dispose 0, .lookup 0 "web/mail".toList] =
      transcript (mailSetting "new".toList) []
        [.open Opening.vaultWorld "/vault".toList "kdbx-master".toList,
          .lookup 0 "web/mail".toList, .read 1, .dispose 0, .lookup 0 "web/mail".toList] :=
  sessions_reveal_no_values (sameVaults_mail "old".toList "new".toList) _

example :
    transcript (mailSetting "old".toList) []
        [.open Opening.vaultWorld "/vault".toList "kdbx-master".toList,
          .lookup 0 "web/mail".toList, .read 1, .dispose 0, .lookup 0 "web/mail".toList] =
      [.ok (.handle 0), .ok (.handle 1),
        .ok (.text
          "Entry \x7b Username = null, Password = <redacted>, Url = null, Notes = null \x7d"),
        .ok .done, .error (.system .objectDisposed)] := by
  rfl

end KdbxCredentials.Handles
