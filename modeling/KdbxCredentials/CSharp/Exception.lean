import KdbxCredentials.Posix.FileSystem

/-!
# Exceptions of the C# library

`KdbxException` has the subtypes and payloads of `Exceptions.cs`; the ones that
wrap a cause keep it.  Other exceptions are told apart as far as the library's
`catch` clauses do.
-/

namespace KdbxCredentials.CSharp

open KdbxCredentials.Text
open KdbxCredentials.Posix

/-- The exceptions of .NET and KeePassLib that reach the library. -/
inductive SystemException
  | fileNotFound
  | directoryNotFound
  | unauthorizedAccess
  | io
  | argument
  | objectDisposed
  | decoderFallback
  | invalidCompositeKey
  | other (message : Str)
  deriving DecidableEq, Repr

/-- The exception that a failed system call turns into.  .NET has another one
for a directory missing on the way; the secret store treats the two alike, and a
database is opened only once the file is known to exist. -/
def ioException : Errno → SystemException
  | .enoent => .fileNotFound
  | .eacces => .unauthorizedAccess
  | .enotdir => .io
  | .eisdir => .unauthorizedAccess
  | .eloop => .io
  | .enametoolong => .io
  | .eio => .io

/-- The exceptions of `Exceptions.cs`. -/
inductive KdbxException
  | secretNotFound (key : Str)
  | databaseNotFound (path : Str)
  | databaseCorrupt (message : String) (inner : Option SystemException)
  | authenticationFailed (inner : Option SystemException)
  | permissionDenied (message : String) (inner : Option SystemException)
  | invalidPath (path : Str) (reason : String)
  | entryNotFound (path : Str)
  | ambiguousEntry (path : Str)
  deriving DecidableEq, Repr

/-- The message that the constructor passes on. -/
def KdbxException.message : KdbxException → Str
  | .secretNotFound key => "secret not found in OS store for key '".toList ++ key ++ "'".toList
  | .databaseNotFound path => "database file not found: ".toList ++ path
  | .databaseCorrupt message _ => message.toList
  | .authenticationFailed _ => "authentication failed — master password may be stale".toList
  | .permissionDenied message _ => message.toList
  | .invalidPath path reason =>
      "invalid path '".toList ++ path ++ "': ".toList ++ reason.toList
  | .entryNotFound path => "entry not found at path '".toList ++ path ++ "'".toList
  | .ambiguousEntry path =>
      "ambiguous path '".toList ++ path ++ "' — multiple entries match".toList

/-- What a method of the library can throw. -/
inductive Thrown
  | kdbx (exception : KdbxException)
  | system (exception : SystemException)
  deriving DecidableEq, Repr

end KdbxCredentials.CSharp
