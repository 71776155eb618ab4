import KdbxCredentials.Rust.Lookup
import KdbxCredentials.Rust.Unwinding
import KdbxCredentials.Tools.Output

/-!
# The tools of the Rust crate

The programs `getpass`, `getfield` and `lookup` under `examples/`, by their
arguments, which begin with the name of the program.  The errors of the library are
reported; a panic ends the program with an exit code of its own.
-/

namespace KdbxCredentials.Rust

open KdbxCredentials.Text
open KdbxCredentials.Posix
open KdbxCredentials.Tools

/-- What the tools run with: the reader of databases, Unicode lowercasing, the
environment and the file system. -/
structure Setting where
  kpOpen : Reader
  toLowercase : Str → Str
  env : Environment
  world : World

/-! ## The runtime -/

/-- A program that returns from `main`, or panics. -/
abbrev Program : Type :=
  Option Output

/-- The exit code, which is 101 after a panic. -/
def Program.exitCode (program : Program) : Nat :=
  program.elim 101 Output.exitCode

/-- The standard output of a program that prints when nothing can panic any more. -/
def Program.stdout (program : Program) : List Str :=
  program.elim [] Output.stdout

/-- `std::env::args`, which panics on an argument that is not UTF-8. -/
def run (tool : List Str → Program) (args : List Bytes) : Program := do
  let texts ← args.mapM decodeUtf8
  tool texts

variable (setting : Setting)

/-- `open` and then `lookup`, as each tool calls them, with the line that reports a
failure. -/
def Setting.fetch (dbPath key entryPath : Str) : Except (Failure Str) Entry := do
  let db ← (setting.kpOpen.open setting.env setting.world (utf8 dbPath) key).mapError
    (Failure.map fun e => "open failed: ".toList ++ e.display)
  (lookup setting.toLowercase db entryPath).mapError
    fun e => .returned ("lookup failed: ".toList ++ e.display)

/-- What a tool prints of the entry that it fetches, unless it gets none. -/
def endWith (print : Entry → Output) : Except (Failure Str) Entry → Program
  | .ok entry => some (print entry)
  | .error (.returned message) => some (.failure 1 [message])
  | .error .panicked => none

/-- What `getpass` makes of the entry. -/
def printPassword (entryPath : Str) (entry : Entry) : Output :=
  match entry.password with
  | some password => .success [password]
  | none => .failure 1 ["entry '".toList ++ entryPath ++ "' has no password".toList]

/-- `getpass.rs`. -/
def getpass : List Str → Program
  | [_, dbPath, key, entryPath] =>
      endWith (printPassword entryPath) (setting.fetch dbPath key entryPath)
  | _ => some (.failure 2 ["usage: getpass <db_path> <secret_store_key> <entry_path>".toList])

/-- The fields that `getfield` knows, by their names. -/
def selectField (entry : Entry) (name : Str) : Option (Option Str) :=
  if name = "username".toList then some entry.username
  else if name = "password".toList then some entry.password
  else if name = "url".toList then some entry.url
  else if name = "notes".toList then some entry.notes
  else none

/-- What `getfield` makes of the entry, with the name in lower case as `other`. -/
def printField (entryPath field other : Str) (entry : Entry) : Output :=
  match selectField entry other with
  | none =>
      .failure 2 ["unknown field '".toList ++ other ++
        "': expected username, password, url, or notes".toList]
  | some (some value) => .success [value]
  | some none => .failure 1 ["entry '".toList ++ entryPath ++ "' has no ".toList ++ field]

/-- `getfield.rs`. -/
def getfield : List Str → Program
  | [_, dbPath, key, entryPath, field] =>
      endWith (printField entryPath field (setting.toLowercase field))
        (setting.fetch dbPath key entryPath)
  | _ =>
      some (.failure 2
        ["usage: getfield <db_path> <secret_store_key> <entry_path> <field>".toList,
          "       field is one of: username, password, url, notes".toList])

/-- What `lookup` makes of the entry. -/
def printEntry (key : Str) (entry : Entry) : Output :=
  .success
    ["OK: opened database via systemd credential '".toList ++ key ++ "'".toList,
      "username: ".toList ++ entry.username.getD "<none>".toList,
      "url:      ".toList ++ entry.url.getD "<none>".toList,
      "password: <retrieved, not printed>".toList]

/-- `lookup.rs`. -/
def lookupTool : List Str → Program
  | [_, dbPath, key, entryPath] =>
      endWith (printEntry key) (setting.fetch dbPath key entryPath)
  | _ => some (.failure 2 ["usage: lookup <db_path> <secret_store_key> <entry_path>".toList])

end KdbxCredentials.Rust
