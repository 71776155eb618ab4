import KdbxCredentials.Tools.Retrieval
import Mathlib.Data.List.DropRight

/-!
# A task that connects to a database server

`kdbx-db-task.sh` captures the output of `kdbx-getpass` and hands it to `psql` in
the environment.  The shell stops at the first command that fails, and a command
substitution drops NUL bytes and the newlines at the end of what it captures.
-/

namespace KdbxCredentials.Tools

open KdbxCredentials.Text
open KdbxCredentials.Posix
open KdbxCredentials.Rust
open KdbxCredentials.SecretStore

/-! ## The shell -/

/-- `ENTRY`. -/
def entryPath : Str :=
  "ndb/postgres-prod".toList

end KdbxCredentials.Tools
