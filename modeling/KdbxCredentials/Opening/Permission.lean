import KdbxCredentials.CSharp.Open

/-!
# Permission failures of opening a database in C#

The existence test answers no both for a file that is missing and for one that
may not be looked for, so a refused search is reported as a missing database.
It answers yes for every node that is not a directory, so a node of another
kind is read like a database.  And like the open it works on the full path, which
can name something else than the path does.
-/

namespace KdbxCredentials.Opening

open KdbxCredentials.Text
open KdbxCredentials.Posix
open KdbxCredentials.CSharp

variable (load : Bytes → Str → Except LoadException PwGroup)
variable (w : World) (dbPath password : Str)

/-- Resolving the path or opening what it names is refused. -/
def AccessRefused : Prop :=
  w.Refused (utf8 dbPath) ∨ ∃ node, w.ResolvesTo (utf8 dbPath) node ∧ node.isReadable = false

/-- Permission failures are reported as such, and otherwise a path to no regular
file as a missing database. -/
structure ReportsPermission : Prop where
  permissionDenied :
    (∃ message inner, openWithPassword load w dbPath password =
        .error (.permissionDenied message inner)) ↔ AccessRefused w dbPath
  databaseNotFound :
    openWithPassword load w dbPath password = .error (.databaseNotFound dbPath) ↔
      ¬AccessRefused w dbPath ∧
        ¬∃ readable contents, w.ResolvesTo (utf8 dbPath) (.regular readable contents)

/-- The full path names a file, as `File.Exists` has it: a node that is not a
directory. -/
def FullNamesFile (node : FsNode) : Prop :=
  node.isDirectory = false ∧ ∃ loc, resolveFull w (utf8 dbPath) = .ok loc ∧ loc.node = node

/-- What the full path names agrees with the path: it is a file that may not be read
when access to the path is refused, and otherwise it is a file when the path names a
regular file, and only then. -/
structure Faithful : Prop where
  refused : AccessRefused w dbPath ↔ ∃ node, FullNamesFile w dbPath node ∧ node.isReadable = false
  regular : ¬AccessRefused w dbPath →
    ((∃ node, FullNamesFile w dbPath node) ↔
      ∃ readable contents, w.ResolvesTo (utf8 dbPath) (.regular readable contents))

variable {w dbPath}

/-! ## The reports -/

/-- A path to no file is reported as a missing database. -/
theorem openWithPassword_of_noFile (absent : ¬∃ node, FullNamesFile w dbPath node) :
    openWithPassword load w dbPath password = .error (.databaseNotFound dbPath) := by
  apply openWithPassword_of_not_exists
  cases found : resolveFull w (utf8 dbPath) with
  | error e => exact fileExists_of_error found
  | ok loc =>
      rw [fileExists_of_ok found]
      cases kind : loc.node.isDirectory with
      | true => rfl
      | false => exact absurd ⟨loc.node, kind, loc, found, rfl⟩ absent

/-- A lack of permission is reported for a file that may not be read. -/
theorem permissionDenied_iff :
    (∃ message inner, openWithPassword load w dbPath password =
        .error (.permissionDenied message inner)) ↔
      ∃ node, FullNamesFile w dbPath node ∧ node.isReadable = false := by
  constructor
  · rintro ⟨message, inner, denied⟩
    by_contra granted
    by_cases present : ∃ node, FullNamesFile w dbPath node
    · obtain ⟨_, file, loc, found, rfl⟩ := present
      have readable : loc.node.isReadable = true := by
        by_contra unreadable
        exact granted ⟨loc.node, ⟨file, loc, found, rfl⟩, by simpa using unreadable⟩
      exact (openWithPassword_of_readable load password found file readable).1 _ _ denied
    · rw [openWithPassword_of_noFile load password present] at denied
      cases denied
  · rintro ⟨_, ⟨file, loc, found, rfl⟩, unreadable⟩
    exact ⟨_, _, openWithPassword_of_unreadable load password found file unreadable⟩

/-- A missing database is reported when there is no file. -/
theorem databaseNotFound_iff :
    openWithPassword load w dbPath password = .error (.databaseNotFound dbPath) ↔
      ¬∃ node, FullNamesFile w dbPath node := by
  constructor
  · rintro missing ⟨_, file, loc, found, rfl⟩
    cases readable : loc.node.isReadable with
    | true => exact (openWithPassword_of_readable load password found file readable).2 _ missing
    | false =>
        rw [openWithPassword_of_unreadable load password found file readable] at missing
        cases missing
  · exact openWithPassword_of_noFile load password

/-- The reports are right exactly when the full path is faithful to the path. -/
theorem reportsPermission_iff_faithful :
    ReportsPermission load w dbPath password ↔ Faithful w dbPath := by
  have unreadable : (∃ node, FullNamesFile w dbPath node ∧ node.isReadable = false) →
      ∃ node, FullNamesFile w dbPath node := fun ⟨node, file, _⟩ => ⟨node, file⟩
  constructor
  · rintro ⟨denied, missing⟩
    rw [permissionDenied_iff] at denied
    rw [databaseNotFound_iff] at missing
    refine ⟨denied.symm, fun granted => ?_⟩
    rw [and_iff_right granted] at missing
    exact not_iff_not.mp missing
  · rintro ⟨refused, regular⟩
    constructor
    · rw [permissionDenied_iff, refused]
    · rw [databaseNotFound_iff]
      constructor
      · intro absent
        have granted : ¬AccessRefused w dbPath :=
          fun denied => absent (unreadable (refused.mp denied))
        exact ⟨granted, fun named => absent ((regular granted).mpr named)⟩
      · rintro ⟨granted, irregular⟩ present
        exact irregular ((regular granted).mp present)

/-- The full path of a path that keeps its meaning is faithful unless a directory on
the way refuses to be searched, or the path names a readable node that is neither a
regular file nor a directory. -/
theorem faithful_iff_of_keepsMeaning (keeps : KeepsMeaning w (utf8 dbPath)) :
    Faithful w dbPath ↔
      ¬w.Refused (utf8 dbPath) ∧
        ¬∃ stream, w.ResolvesTo (utf8 dbPath) (.special true stream) := by
  have file_iff : ∀ node, FullNamesFile w dbPath node ↔
      node.isDirectory = false ∧ w.ResolvesTo (utf8 dbPath) node := by
    intro node
    rw [FullNamesFile, keeps]
    rfl
  constructor
  · rintro ⟨refused, regular⟩
    constructor
    · intro searched
      obtain ⟨node, named, _⟩ := refused.mp (Or.inl searched)
      have failed := (World.resolve_eq_eacces_iff w _).mpr searched
      exact World.not_resolvesTo_of_error failed node ((file_iff node).mp named).2
    · rintro ⟨stream, loc, found, special⟩
      obtain ⟨_, _, searched, resolves⟩ := World.of_resolve_eq_ok found
      have granted : ¬AccessRefused w dbPath := by
        rintro (refused | ⟨node, named, unreadable⟩)
        · exact searched refused
        · rw [resolves, special] at named
          rw [← named] at unreadable
          cases unreadable
      obtain ⟨readable, contents, named⟩ :=
        (regular granted).mp ⟨_, (file_iff _).mpr ⟨rfl, loc, found, special⟩⟩
      rw [resolves, special] at named
      cases named
  · rintro ⟨searched, notSpecial⟩
    constructor
    · constructor
      · rintro (refused | ⟨node, named, unreadable⟩)
        · exact absurd refused searched
        · refine ⟨node, (file_iff node).mpr ⟨?_, named⟩, unreadable⟩
          cases node with
          | directory searchable entries => cases unreadable
          | regular readable contents => rfl
          | special readable stream => rfl
      · rintro ⟨node, named, unreadable⟩
        exact Or.inr ⟨node, ((file_iff node).mp named).2, unreadable⟩
    · intro granted
      constructor
      · rintro ⟨node, named⟩
        obtain ⟨file, resolved⟩ := (file_iff node).mp named
        cases node with
        | directory searchable entries => cases file
        | regular readable contents => exact ⟨readable, contents, resolved⟩
        | special readable stream =>
            cases readable with
            | true => exact absurd ⟨stream, resolved⟩ notSpecial
            | false => exact absurd (Or.inr ⟨_, resolved, rfl⟩) granted
      · rintro ⟨readable, contents, resolved⟩
        exact ⟨_, (file_iff _).mpr ⟨rfl, resolved⟩⟩

/-- The reports are right exactly when the full path is faithful to the path: for a path
that keeps its meaning, when every directory on the way may be searched and no node of
another kind is read. -/
theorem reportsPermission_iff :
    (ReportsPermission load w dbPath password ↔ Faithful w dbPath) ∧
      (KeepsMeaning w (utf8 dbPath) →
        (ReportsPermission load w dbPath password ↔
          ¬w.Refused (utf8 dbPath) ∧
            ¬∃ stream, w.ResolvesTo (utf8 dbPath) (.special true stream))) := by
  have faithful : ReportsPermission load w dbPath password ↔ Faithful w dbPath :=
    reportsPermission_iff_faithful load password
  constructor
  · exact faithful
  · intro keeps
    rw [faithful]
    exact faithful_iff_of_keepsMeaning keeps

/-! ## A locked directory -/

/-- A database in a directory that the process may not search. -/
def lockedVault : World where
  root := .directory true
    [(utf8 "vault".toList, .directory false [(utf8 "db.kdbx".toList, .regular true [])])]
  cwd := []

theorem reportsPermission_iff_lockedVault :
    ReportsPermission (fun _ _ => .error .invalidCompositeKey) lockedVault
        "/vault/db.kdbx".toList "pw".toList ↔
      ¬lockedVault.Refused (utf8 "/vault/db.kdbx".toList) ∧
        ¬∃ stream, lockedVault.ResolvesTo (utf8 "/vault/db.kdbx".toList)
          (.special true stream) :=
  (reportsPermission_iff _ _).2
    (keepsMeaning_of_isAbsolute (by decide) (by decide) (Or.inr (by decide)))

/-- The refused search is reported as a missing database, whatever KeePassLib
does. -/
theorem lockedVault_not_reportsPermission :
    (∀ load, openWithPassword load lockedVault "/vault/db.kdbx".toList "pw".toList =
        .error (.databaseNotFound "/vault/db.kdbx".toList)) ∧
      ∀ load, ¬ReportsPermission load lockedVault "/vault/db.kdbx".toList "pw".toList := by
  have failed : lockedVault.resolve (utf8 "/vault/db.kdbx".toList) = .error .eacces := by rfl
  have failed' : resolveFull lockedVault (utf8 "/vault/db.kdbx".toList) = .error .eacces := by rfl
  have result : ∀ load, openWithPassword load lockedVault "/vault/db.kdbx".toList "pw".toList =
      .error (.databaseNotFound "/vault/db.kdbx".toList) :=
    fun load => openWithPassword_of_not_exists load "pw".toList (fileExists_of_error failed')
  constructor
  · exact result
  · intro load reports
    have refused := (World.resolve_eq_eacces_iff lockedVault _).mp failed
    obtain ⟨message, inner, denied⟩ := reports.permissionDenied.mpr (Or.inl refused)
    rw [result] at denied
    cases denied

end KdbxCredentials.Opening
