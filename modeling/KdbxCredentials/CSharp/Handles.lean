import KdbxCredentials.CSharp.Tools
import KdbxCredentials.Effects.Heap

/-!
# The handles of the C# library

`Database` and `Entry` as the objects that a caller holds and disposes of, and the
tools with their `using` declarations, which dispose of an object at the end of
its scope.
-/

namespace KdbxCredentials.CSharp

open KdbxCredentials.Text
open KdbxCredentials.Effects
open KdbxCredentials.Tools

/-- An object with a `Dispose` method.  A database counts how often its
`PwDatabase` has been closed. -/
inductive Handle
  | database (db : Database) (closes : Nat)
  | entry (fields : Entry)

/-- An entry without its fields. -/
def Entry.empty : Entry where
  username := none
  password := none
  url := none
  notes := none

/-- `R` of `ToString`: whether there is a value, and never which. -/
def redacted (v : Option Str) : String :=
  if v.isNone then "null" else "<redacted>"

/-- `Entry.ToString`. -/
def Entry.toString (entry : Entry) : String :=
  String.join
    ["Entry \x7b Username = ", redacted entry.username, ", Password = ", redacted entry.password,
      ", Url = ", redacted entry.url, ", Notes = ", redacted entry.notes, " \x7d"]

/-- `Database.Dispose` and `Entry.Dispose`. -/
def Handle.disposed : Handle → Handle
  | database db closes =>
      if db.disposed then database db closes
      else database { db with disposed := true } (closes + 1)
  | entry _ => entry Entry.empty

/-- Code that holds handles. -/
abbrev Held : Type → Type :=
  Action (Heap Handle) Thrown

/-! ## The methods -/

def dispose (handle : Nat) : Held PUnit :=
  update handle Handle.disposed

/-- A reference to nothing, or to an object of another type. -/
def nullReference : Thrown :=
  .system (.other "Object reference not set to an instance of an object.".toList)

/-- The database behind a handle. -/
def databaseAt (handle : Nat) : Held Database := do
  match ← load handle with
  | some (.database db _) => return db
  | _ => throw nullReference

/-- The fields of the entry behind a handle. -/
def entryAt (handle : Nat) : Held Entry := do
  match ← load handle with
  | some (.entry fields) => return fields
  | _ => throw nullReference

/-- `Database.Open`, which returns a new object. -/
def openHandle (setting : Setting) (dbPath key : Str) : Held Nat := do
  let db ← ofExcept (Database.open setting.load setting.env setting.world dbPath key)
  alloc (.database db 0)

/-- `Database.Lookup`, which returns a new object. -/
def lookupHandle (upper : Char → Char) (handle : Nat) (path : Str) : Held Nat := do
  let db ← databaseAt handle
  let fields ← ofExcept (db.lookup upper path)
  alloc (.entry fields)

/-! ## The tools -/

/-- The two `using` declarations of a tool around its use of the entry. -/
def withEntry (setting : Setting) (dbPath key entryPath : Str) (print : Entry → Output) :
    Held Output := do
  let db ← openHandle setting dbPath key
  tryFinally
    (do
      let entry ← lookupHandle setting.upper db entryPath
      tryFinally
        (do
          let fields ← entryAt entry
          return print fields)
        (dispose entry))
    (dispose db)

/-- The `catch` clause of the tools. -/
def reportKdbx : Thrown → Held Output
  | .kdbx exception => return .failure 1 ["failed: ".toList ++ exception.message]
  | .system exception => throw (.system exception)

variable (setting : Setting)

/-- `GetPass/Program.cs` with its objects. -/
def getPassHeld : List Str → Held Output
  | [dbPath, key, entryPath] =>
      tryCatch (withEntry setting dbPath key entryPath (printPassword entryPath)) reportKdbx
  | _ =>
      return .failure 2 ["usage: kdbx-getpass <db_path> <secret_store_key> <entry_path>".toList]

/-- `GetField/Program.cs` with its objects. -/
def getFieldHeld : List Str → Held Output
  | [dbPath, key, entryPath, name] =>
      let field := setting.toLowerInvariant name
      if !knownField field then
        return .failure 2 ["unknown field '".toList ++ name ++
          "': expected username, password, url, or notes".toList]
      else
        tryCatch (withEntry setting dbPath key entryPath (printField entryPath field)) reportKdbx
  | _ =>
      return .failure 2
        ["usage: kdbx-getfield <db_path> <secret_store_key> <entry_path> <field>".toList,
          "       field is one of: username, password, url, notes".toList]

/-- `Lookup/Program.cs` with its objects. -/
def lookupToolHeld : List Str → Held Output
  | [dbPath, key, entryPath] =>
      tryCatch (withEntry setting dbPath key entryPath (printEntry key)) reportKdbx
  | _ =>
      return .failure 2 ["usage: kdbx-lookup <db_path> <secret_store_key> <entry_path>".toList]

end KdbxCredentials.CSharp
