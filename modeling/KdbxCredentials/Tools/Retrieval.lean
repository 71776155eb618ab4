import KdbxCredentials.Lookup.MatchCount
import KdbxCredentials.Opening.Interference
import KdbxCredentials.Rust.Tools

/-!
# What it takes to print a password

`getpass` prints a password when every stage before succeeds: the credential is
read, the database file is opened and decrypted, and the path leads to a single
entry, which has one.  A retrieval is the evidence for all of this.  Otherwise it
reports a failure, unless the reader of the database panics.
-/

namespace KdbxCredentials.Tools

open KdbxCredentials.Text
open KdbxCredentials.Descent
open KdbxCredentials.Effects
open KdbxCredentials.Posix
open KdbxCredentials.Rust
open KdbxCredentials.Lookup
open KdbxCredentials.Opening

variable {setting : Setting} {program dbPath key entryPath : Str}

variable (setting program dbPath key entryPath)

end KdbxCredentials.Tools
