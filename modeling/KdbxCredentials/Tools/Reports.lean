import KdbxCredentials.Handles.Using
import KdbxCredentials.Tools.Agreement
import KdbxCredentials.Tools.Failures

/-!
# What the tools report

Whatever the secret store, the file system and the database hold, a tool ends
with nothing on the standard error and success, or with nothing on the standard
output and one of a few reports, which its arguments determine.  A Rust tool panics
instead when its reader does, or when an argument is no text.  In one service the
tools of both libraries give the same report, apart from the words in front of it and
from what they say of a lack of permission.
-/

namespace KdbxCredentials.Tools

open KdbxCredentials.Text
open KdbxCredentials.Effects
open KdbxCredentials.Posix
open KdbxCredentials.Rust
open KdbxCredentials.Lookup
open KdbxCredentials.Opening
open KdbxCredentials.Paths
open KdbxCredentials.CSharp (KdbxException Thrown)

/-! ## The texts -/

variable {dbPath key entryPath : Str} {error : KdbxError} {exception : KdbxException}

variable (setting : Rust.Setting) (setting' : CSharp.Setting)

/-- The path and the key of a tool with three arguments, which it opens. -/
def opens : List Str → Option (Str × Str)
  | [_, dbPath, key, _] => some (dbPath, key)
  | _ => none

variable {setting}

variable (setting)

variable {setting setting'}

end KdbxCredentials.Tools
