import KdbxCredentials.Lookup.Naturality
import KdbxCredentials.Tools.Agreement

/-!
# What the tools show of a database

Each tool shows the fields that it is asked for and nothing of the others: any
change of the entries that keeps the titles and the fields shown leaves its whole
output as it is, the messages on the standard error and the exit code included.  So
two databases that are the same once the other fields are erased cannot be told apart.
-/

namespace KdbxCredentials.Tools

open KdbxCredentials.Text
open KdbxCredentials.Posix
open KdbxCredentials.Rust
open KdbxCredentials.Lookup

variable (change : KpEntry → KpEntry) (setting : Setting)

/-- The setting in which every entry of every database is changed. -/
def changed : Setting :=
  { setting with
    kpOpen := fun contents password =>
      (setting.kpOpen contents password).map (mapDatabase change) }

/-! ## Fetching an entry -/

/-- The tools open the changed database, or fail alike. -/
theorem open_changed (dbPath : Bytes) (key : Str) :
    (changed change setting).kpOpen.open (changed change setting).env
        (changed change setting).world dbPath key =
      (setting.kpOpen.open setting.env setting.world dbPath key).map (mapDatabase change) := by
  change Reader.open _ setting.env setting.world dbPath key = _
  rw [Reader.open_eq, Reader.open_eq]
  cases handedOver setting.env setting.world dbPath key with
  | error error => rfl
  | ok pair =>
      change ((setting.kpOpen pair.1 pair.2).map _).mapError _ =
        ((setting.kpOpen pair.1 pair.2).mapError _).map _
      cases setting.kpOpen pair.1 pair.2 <;> rfl

variable {change} (keepsTitles : ∀ fields, (change fields).title = fields.title)

include keepsTitles in
/-- The tools fetch the changed fields, or fail alike. -/
theorem fetch_changed (dbPath key entryPath : Str) :
    (∃ failure, setting.fetch dbPath key entryPath = .error failure ∧
        (changed change setting).fetch dbPath key entryPath = .error failure) ∨
      ∃ fields, setting.fetch dbPath key entryPath = .ok (exposed fields) ∧
        (changed change setting).fetch dbPath key entryPath = .ok (exposed (change fields)) := by
  rw [Setting.fetch, Setting.fetch, open_changed]
  cases setting.kpOpen.open setting.env setting.world (utf8 dbPath) key with
  | error failure => exact Or.inl ⟨_, rfl, rfl⟩
  | ok db =>
      change (∃ failure, (lookup setting.toLowercase db entryPath).mapError _ = _ ∧
          (lookup setting.toLowercase (mapDatabase change db) entryPath).mapError _ = _) ∨
        ∃ fields, (lookup setting.toLowercase db entryPath).mapError _ = _ ∧
          (lookup setting.toLowercase (mapDatabase change db) entryPath).mapError _ = _
      rcases lookup_mapDatabase keepsTitles setting.toLowercase db entryPath with
        ⟨error, failed, failed'⟩ | ⟨fields, found, found'⟩
      · rw [failed, failed']
        exact Or.inl ⟨_, rfl, rfl⟩
      · rw [found, found']
        exact Or.inr ⟨fields, rfl, rfl⟩

/-! ## The tools -/

include keepsTitles in
/-- A tool that prints the same of a changed entry ends in the same way. -/
theorem endWith_changed {print : Entry → Output}
    (keeps : ∀ fields, print (exposed (change fields)) = print (exposed fields))
    (dbPath key entryPath : Str) :
    endWith print ((changed change setting).fetch dbPath key entryPath) =
      endWith print (setting.fetch dbPath key entryPath) := by
  rcases fetch_changed setting keepsTitles dbPath key entryPath with
    ⟨failure, failed, failed'⟩ | ⟨fields, found, found'⟩
  · rw [failed, failed']
  · rw [found, found']
    change some (print (exposed (change fields))) = some (print (exposed fields))
    rw [keeps]

include keepsTitles in
/-- `getpass` sees no field but the password. -/
theorem getpass_changed (keeps : ∀ fields, (change fields).password = fields.password)
    (args : List Str) : getpass (changed change setting) args = getpass setting args := by
  rcases args with _ | ⟨program, _ | ⟨dbPath, _ | ⟨key, _ | ⟨entryPath, _ | ⟨extra, rest⟩⟩⟩⟩⟩
  · rfl
  · rfl
  · rfl
  · rfl
  · apply endWith_changed setting keepsTitles
    intro fields
    rw [printPassword, printPassword]
    dsimp only [exposed]
    rw [keeps]
  · rfl

include keepsTitles in
/-- The `lookup` tool sees no field but the user name and the URL. -/
theorem lookupTool_changed
    (keeps : ∀ fields, (change fields).username = fields.username ∧
      (change fields).url = fields.url) (args : List Str) :
    lookupTool (changed change setting) args = lookupTool setting args := by
  rcases args with _ | ⟨program, _ | ⟨dbPath, _ | ⟨key, _ | ⟨entryPath, _ | ⟨extra, rest⟩⟩⟩⟩⟩
  · rfl
  · rfl
  · rfl
  · rfl
  · apply endWith_changed setting keepsTitles
    intro fields
    rw [printEntry, printEntry]
    dsimp only [exposed]
    rw [(keeps fields).1, (keeps fields).2]
  · rfl

include keepsTitles in
/-- `getfield` sees no field but the one it is asked for. -/
theorem getfield_changed {args : List Str}
    (keeps : ∀ program dbPath key entryPath field,
      args = [program, dbPath, key, entryPath, field] →
      ∀ fields, selectField (exposed (change fields)) (setting.toLowercase field) =
        selectField (exposed fields) (setting.toLowercase field)) :
    getfield (changed change setting) args = getfield setting args := by
  rcases args with
    _ | ⟨program, _ | ⟨dbPath, _ | ⟨key, _ | ⟨entryPath, _ | ⟨field, _ | ⟨extra, rest⟩⟩⟩⟩⟩⟩
  · rfl
  · rfl
  · rfl
  · rfl
  · rfl
  · apply endWith_changed setting keepsTitles
    intro fields
    change printField entryPath field (setting.toLowercase field) (exposed (change fields)) =
      printField entryPath field (setting.toLowercase field) (exposed fields)
    rw [printField, printField, keeps program dbPath key entryPath field rfl]
  · rfl

/-- Whatever the arguments, a change of the entries that keeps the titles and the
fields that a tool shows leaves the output of the tool as it is. -/
theorem tools_changed (keepsTitles : ∀ fields, (change fields).title = fields.title)
    (args : List Str) :
    ((∀ fields, (change fields).password = fields.password) →
        getpass (changed change setting) args = getpass setting args) ∧
      ((∀ fields, (change fields).username = fields.username ∧
          (change fields).url = fields.url) →
        lookupTool (changed change setting) args = lookupTool setting args) ∧
      ((∀ program dbPath key entryPath field,
          args = [program, dbPath, key, entryPath, field] →
          ∀ fields, selectField (exposed (change fields)) (setting.toLowercase field) =
            selectField (exposed fields) (setting.toLowercase field)) →
        getfield (changed change setting) args = getfield setting args) :=
  ⟨fun keeps => getpass_changed setting keepsTitles keeps args,
    fun keeps => lookupTool_changed setting keepsTitles keeps args,
    getfield_changed setting keepsTitles⟩

/-- Settings whose databases are the same once the fields that a tool does not show are
erased have the same output. -/
theorem tools_eq_of_erased {erase : KpEntry → KpEntry} {setting setting' : Setting}
    (keepsTitles : ∀ fields, (erase fields).title = fields.title)
    (same : changed erase setting = changed erase setting') (args : List Str) :
    ((∀ fields, (erase fields).password = fields.password) →
        getpass setting args = getpass setting' args) ∧
      ((∀ fields, (erase fields).username = fields.username ∧
          (erase fields).url = fields.url) →
        lookupTool setting args = lookupTool setting' args) ∧
      ((∀ program dbPath key entryPath field,
          args = [program, dbPath, key, entryPath, field] →
          ∀ fields, selectField (exposed (erase fields)) (setting.toLowercase field) =
            selectField (exposed fields) (setting.toLowercase field)) →
        getfield setting args = getfield setting' args) := by
  refine ⟨fun keeps => ?_, fun keeps => ?_, fun keeps => ?_⟩
  · rw [← getpass_changed setting keepsTitles keeps, same,
      getpass_changed setting' keepsTitles keeps]
  · rw [← lookupTool_changed setting keepsTitles keeps, same,
      lookupTool_changed setting' keepsTitles keeps]
  · have lowercase : (changed erase setting).toLowercase = (changed erase setting').toLowercase :=
      congrArg Setting.toLowercase same
    change setting.toLowercase = setting'.toLowercase at lowercase
    have keeps' := keeps
    rw [lowercase] at keeps'
    rw [← getfield_changed setting keepsTitles keeps, same,
      getfield_changed setting' keepsTitles keeps']

/-! ## Another password -/

/-- Every entry gets the same password and loses its notes. -/
def resetPassword (fields : KpEntry) : KpEntry :=
  { fields with password := some "changed".toList, notes := none }

theorem tools_changed_resetPassword :
    lookupTool (changed resetPassword vaultSetting)
        ["lookup".toList, "/vault".toList, "kdbx-master".toList, "web/mail".toList] =
      lookupTool vaultSetting
        ["lookup".toList, "/vault".toList, "kdbx-master".toList, "web/mail".toList] := by
  have keepsTitles : ∀ fields, (resetPassword fields).title = fields.title := fun _ => rfl
  exact (tools_changed vaultSetting keepsTitles _).2.1 fun _ => ⟨rfl, rfl⟩

end KdbxCredentials.Tools
