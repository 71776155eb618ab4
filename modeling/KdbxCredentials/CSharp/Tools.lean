import KdbxCredentials.CSharp.OpenCalls
import KdbxCredentials.Tools.Output

/-!
# The tools of the C# library

The programs `GetPass`, `GetField` and `Lookup` under `examples/` on Linux, by
their arguments.  They catch the exceptions of the library; any other one ends
the program.
-/

namespace KdbxCredentials.CSharp

open KdbxCredentials.Text
open KdbxCredentials.Posix
open KdbxCredentials.Tools

/-- What the tools run with: the reader of databases, the two invariant case
mappings, the environment and the file system. -/
structure Setting where
  load : Bytes → Str → Except LoadException PwGroup
  upper : Char → Char
  toLowerInvariant : Str → Str
  env : Environment
  world : World

/-- A program that ends, or dies of an unhandled exception. -/
abbrev Program : Type :=
  Except SystemException Output

variable (setting : Setting)

/-- `Database.Open` and then `Lookup`, as each tool calls them. -/
def Setting.fetch (dbPath key entryPath : Str) : Except Thrown Entry := do
  let db ← Database.open setting.load setting.env setting.world dbPath key
  db.lookup setting.upper entryPath

/-- `try` with the `catch` clause of the tools. -/
def catchKdbx (body : Except Thrown Output) : Program :=
  match body with
  | .ok output => .ok output
  | .error (.kdbx exception) => .ok (.failure 1 ["failed: ".toList ++ exception.message])
  | .error (.system exception) => .error exception

/-- What `GetPass` makes of the entry. -/
def printPassword (entryPath : Str) (entry : Entry) : Output :=
  match entry.password with
  | none => .failure 1 ["entry '".toList ++ entryPath ++ "' has no password".toList]
  | some password => .success [password]

/-- `GetPass/Program.cs`. -/
def getPass : List Str → Program
  | [dbPath, key, entryPath] =>
      catchKdbx do
        let entry ← setting.fetch dbPath key entryPath
        return printPassword entryPath entry
  | _ => .ok (.failure 2 ["usage: kdbx-getpass <db_path> <secret_store_key> <entry_path>".toList])

/-- The fields that `GetField` accepts. -/
def knownField (field : Str) : Bool :=
  field = "username".toList || field = "password".toList || field = "url".toList ||
    field = "notes".toList

/-- The `switch` of `GetField`, with its last arm for the notes. -/
def selectField (entry : Entry) (field : Str) : Option Str :=
  if field = "username".toList then entry.username
  else if field = "password".toList then entry.password
  else if field = "url".toList then entry.url
  else entry.notes

/-- What `GetField` makes of the entry. -/
def printField (entryPath field : Str) (entry : Entry) : Output :=
  match selectField entry field with
  | none => .failure 1 ["entry '".toList ++ entryPath ++ "' has no ".toList ++ field]
  | some value => .success [value]

/-- `GetField/Program.cs`. -/
def getField : List Str → Program
  | [dbPath, key, entryPath, name] =>
      let field := setting.toLowerInvariant name
      if !knownField field then
        .ok (.failure 2 ["unknown field '".toList ++ name ++
          "': expected username, password, url, or notes".toList])
      else
        catchKdbx do
          let entry ← setting.fetch dbPath key entryPath
          return printField entryPath field entry
  | _ =>
      .ok (.failure 2
        ["usage: kdbx-getfield <db_path> <secret_store_key> <entry_path> <field>".toList,
          "       field is one of: username, password, url, notes".toList])

/-- What `Lookup` makes of the entry. -/
def printEntry (key : Str) (entry : Entry) : Output :=
  .success
    ["OK: opened database via systemd credential '".toList ++ key ++ "'".toList,
      "username: ".toList ++ entry.username.getD "<none>".toList,
      "url:      ".toList ++ entry.url.getD "<none>".toList,
      "password: <retrieved, not printed>".toList]

/-- `Lookup/Program.cs`. -/
def lookupTool : List Str → Program
  | [dbPath, key, entryPath] =>
      catchKdbx do
        let entry ← setting.fetch dbPath key entryPath
        return printEntry key entry
  | _ => .ok (.failure 2 ["usage: kdbx-lookup <db_path> <secret_store_key> <entry_path>".toList])

end KdbxCredentials.CSharp
