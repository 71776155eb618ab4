import KdbxCredentials.Posix.FileSystem

/-!
# Errors of the Rust crate

`KdbxError` carries the payloads of `error.rs`.  The boxed source of
`DatabaseCorrupt` is one of the three values `lib.rs` boxes: an I/O error, an
integrity error of the KDBX reader, or a fixed text.  Errors of other crates
are kept as their text.
-/

namespace KdbxCredentials.Rust

open KdbxCredentials.Text
open KdbxCredentials.Posix

/-- The kinds of `std::io::Error` that reach the program. -/
inductive ErrorKind
  | notFound
  | permissionDenied
  | notADirectory
  | isADirectory
  | filesystemLoop
  | invalidFilename
  | invalidInput
  | invalidData
  | unexpectedEof
  | other
  deriving DecidableEq, Repr

/-- `std::io::Error::kind` of an error number. -/
def errorKind : Errno → ErrorKind
  | .enoent => .notFound
  | .eacces => .permissionDenied
  | .enotdir => .notADirectory
  | .eisdir => .isADirectory
  | .eloop => .filesystemLoop
  | .enametoolong => .invalidFilename
  | .eio => .other

/-- `keepass_ng::DatabaseOpenError`. -/
inductive DatabaseOpenError
  | key (inner : Str)
  | io (kind : ErrorKind)
  | databaseIntegrity (inner : Str)
  | unsupportedVersion
  deriving DecidableEq, Repr

/-- The error boxed inside `DatabaseCorrupt`. -/
inductive CorruptSource
  | io (kind : ErrorKind)
  | databaseIntegrity (inner : Str)
  | text (message : String)
  deriving DecidableEq, Repr

/-- The error type of every operation of the crate. -/
inductive KdbxError
  | secretNotFound (key : Str)
  | databaseNotFound (path : Bytes)
  | databaseCorrupt (source : CorruptSource)
  | authenticationFailed
  | permissionDenied
  | invalidPath (path : Str) (reason : String)
  | entryNotFound (path : Str)
  | ambiguousEntry (path : Str)
  deriving DecidableEq, Repr

/-- The text that `Display` writes; a path that is no text loses the bytes that
cannot be shown. -/
def KdbxError.display : KdbxError → Str
  | .secretNotFound key => "secret not found in OS store for key '".toList ++ key ++ "'".toList
  | .databaseNotFound path => "database file not found: ".toList ++ decodeUtf8Lossy path
  | .databaseCorrupt _ => "database file is corrupt or in an unsupported format".toList
  | .authenticationFailed => "authentication failed — master password may be stale".toList
  | .permissionDenied => "permission denied accessing database or secret store".toList
  | .invalidPath path reason =>
      "invalid path '".toList ++ path ++ "': ".toList ++ reason.toList
  | .entryNotFound path => "entry not found at path '".toList ++ path ++ "'".toList
  | .ambiguousEntry path =>
      "ambiguous path '".toList ++ path ++ "' — multiple entries match".toList

end KdbxCredentials.Rust
