import KdbxCredentials.Text.Utf8

/-!
# What a command-line tool leaves behind

The text on its two streams, as a sequence of lines, and its exit code.
-/

namespace KdbxCredentials.Tools

open KdbxCredentials.Text

structure Output where
  stdout : List Str := []
  stderr : List Str := []
  exitCode : Nat
  deriving DecidableEq, Repr

/-- Success, with lines on the standard output. -/
def Output.success (lines : List Str) : Output where
  stdout := lines
  exitCode := 0

/-- Failure, with lines on the standard error. -/
def Output.failure (exitCode : Nat) (lines : List Str) : Output where
  stderr := lines
  exitCode := exitCode

end KdbxCredentials.Tools
