import KdbxCredentials.CSharp.LinuxSecretStore
import KdbxCredentials.SecretStore.KeyCheck

/-!
# The two Linux stores

The C# check looks for characters, the Rust check at components.  Apart from
keys with a trailing slash the two accept the same keys, except that C# refuses
a backslash, which Linux does not treat as a separator.  For a key that both
accept they open the same path and classify every answer alike.  .NET normalizes the
path first, which leaves a normal directory alone, and names another file only where a
name before `..` is not there or is a link.
-/

namespace KdbxCredentials.SecretStore

open KdbxCredentials.Text
open KdbxCredentials.Posix
open KdbxCredentials.Rust
open KdbxCredentials.CSharp (Thrown SystemException combine readFull atFullPath)

/-- The value of a nonempty, absolute `$CREDENTIALS_DIRECTORY`. -/
structure CredentialsDirectory where
  path : Str
  isAbsolute : Posix.isAbsolute (utf8 path) = true
  noNul : nulChar ∉ path

/-- Outcomes that a caller cannot tell apart: the same secret, or the same kind
of failure. -/
inductive SameSecret : Except KdbxError Str → Except Thrown Str → Prop
  | ok (secret : Str) : SameSecret (.ok secret) (.ok secret)
  | secretNotFound (key : Str) :
      SameSecret (.error (.secretNotFound key)) (.error (.kdbx (.secretNotFound key)))
  | permissionDenied (message : String) (inner : Option SystemException) :
      SameSecret (.error .permissionDenied) (.error (.kdbx (.permissionDenied message inner)))

variable {dir : CredentialsDirectory} {key : Str}

/-! ## The checks -/

/-- The keys that C# accepts. -/
theorem csharp_isSafeCredentialId_iff (key : Str) :
    CSharp.isSafeCredentialId key = true ↔ PlainKey key ∧ '\\' ∉ key := by
  simp only [CSharp.isSafeCredentialId, Bool.and_eq_true, decide_eq_true_eq, bne_iff_ne,
    Bool.not_eq_true', List.contains_eq_mem, decide_eq_false_iff_not, gt_iff_lt,
    List.length_pos_iff]
  constructor
  · rintro ⟨⟨⟨⟨⟨nonempty, not_dot⟩, not_dotDot⟩, noSlash⟩, noBackslash⟩, noNul⟩
    exact ⟨⟨nonempty, noSlash, noNul, not_dot, not_dotDot⟩, noBackslash⟩
  · rintro ⟨plain, noBackslash⟩
    exact ⟨⟨⟨⟨⟨plain.nonempty, plain.not_dot⟩, plain.not_dotDot⟩, plain.noSlash⟩, noBackslash⟩,
      plain.noNul⟩

/-- Both sides join a plain key to the directory in the same way. -/
theorem utf8_combine (dir : CredentialsDirectory) (plain : PlainKey key) :
    utf8 (combine dir.path key) = join (utf8 dir.path) (utf8 key) := by
  have relative : isAbsolute (utf8 key) = false := plain.namePieces.utf8_key.1
  have dirNonempty : dir.path ≠ [] := by
    intro empty
    have absolute := dir.isAbsolute
    rw [empty] at absolute
    cases absolute
  have notRooted : key.head? ≠ some '/' :=
    fun head => plain.noSlash (List.mem_of_mem_head? head)
  have ends_iff : (utf8 dir.path).getLast? = some slash ↔ dir.path.getLast? = some '/' :=
    getLast?_utf8_iff (by decide) rfl dir.path
  rw [combine, if_neg dirNonempty, if_neg plain.nonempty, if_neg notRooted, join,
    if_neg (Bool.eq_false_iff.mp relative)]
  by_cases ends : dir.path.getLast? = some '/'
  · rw [if_pos ends, if_pos (Or.inr (ends_iff.mpr ends)), utf8_append]
  · have endsBytes : ¬(utf8 dir.path = [] ∨ (utf8 dir.path).getLast? = some slash) := by
      rw [utf8_eq_nil_iff, ends_iff]
      exact not_or.mpr ⟨dirNonempty, ends⟩
    rw [if_neg ends, if_neg endsBytes, utf8_append, utf8_cons]
    rfl

/-- Neither side stops at the path of a plain key before the system call. -/
theorem combine_accessible (dir : CredentialsDirectory) (plain : PlainKey key) :
    nul ∉ join (utf8 dir.path) (utf8 key) ∧
      ¬(combine dir.path key = [] ∨ nulChar ∈ combine dir.path key) := by
  have relative : isAbsolute (utf8 key) = false := plain.namePieces.utf8_key.1
  have noNul : nul ∉ join (utf8 dir.path) (utf8 key) := by
    rw [mem_join_iff (by decide) relative, nul_mem_utf8_iff, nul_mem_utf8_iff]
    exact not_or.mpr ⟨dir.noNul, plain.noNul⟩
  constructor
  · exact noNul
  · rw [← nul_mem_utf8_iff, ← utf8_eq_nil_iff, utf8_combine dir plain]
    apply not_or.mpr
    constructor
    · intro empty
      have absolute := isAbsolute_join dir.isAbsolute relative
      rw [empty] at absolute
      cases absolute
    · exact noNul

/-! ## The outcomes -/

/-- The two sides classify every answer alike. -/
theorem sameSecret_of_answer (key : Str) (answer : Except Errno Bytes) :
    SameSecret
      (Except.mapError (mapReadError key)
        (match answer with
        | .error e => .error (errorKind e)
        | .ok contents =>
            match decodeUtf8 contents with
            | some text => .ok text
            | none => .error .invalidData))
      ((answer.mapError CSharp.ioException).mapError (CSharp.mapReadException key) >>=
        CSharp.decodeSecret) := by
  cases answer with
  | error e =>
      cases e with
      | enoent => exact SameSecret.secretNotFound key
      | eacces => exact SameSecret.permissionDenied _ _
      | enotdir => exact SameSecret.permissionDenied _ _
      | eisdir => exact SameSecret.permissionDenied _ _
      | eloop => exact SameSecret.permissionDenied _ _
      | enametoolong => exact SameSecret.permissionDenied _ _
      | eio => exact SameSecret.permissionDenied _ _
  | ok contents =>
      change SameSecret (Except.mapError (mapReadError key) (match decodeUtf8 contents with
        | some text => .ok text
        | none => .error .invalidData)) (CSharp.decodeSecret contents)
      rw [CSharp.decodeSecret]
      cases decodeUtf8 contents with
      | some text => exact SameSecret.ok text
      | none => exact SameSecret.permissionDenied _ _

/-- The stores agree on a plain key that both accept, when .NET finds its file. -/
theorem sameSecret_of_accepted {fs fs' : Bytes → Except Errno Bytes}
    (accepted : CSharp.isSafeCredentialId key = true)
    (found : fs' (join (utf8 dir.path) (utf8 key)) = fs (join (utf8 dir.path) (utf8 key))) :
    SameSecret ((readFromDir (utf8 dir.path) key).run fs)
      ((CSharp.readFromDir dir.path key).run fs') := by
  have plain := ((csharp_isSafeCredentialId_iff key).mp accepted).1
  have accepted' := (isSafeCredentialId_iff_plain_or_trailing key).mpr (Or.inl plain)
  obtain ⟨noNul, usable⟩ := combine_accessible dir plain
  rw [readFromDir_of_accepted _ accepted', CSharp.readFromDir_of_accepted _ accepted,
    FileProgram.run_map, FileProgram.run_map, readToString, CSharp.readAllBytes, if_neg noNul,
    if_neg usable, utf8_combine dir plain]
  change SameSecret _ (((fs' (join (utf8 dir.path) (utf8 key))).mapError _).mapError _ >>= _)
  rw [found]
  exact sameSecret_of_answer key (fs (join (utf8 dir.path) (utf8 key)))

/-- The stores have the same outcome for every key that the two checks judge alike, when
.NET finds the files of plain keys. -/
theorem sameSecret_of_alike {fs fs' : Bytes → Except Errno Bytes}
    (alike : CSharp.isSafeCredentialId key = isSafeCredentialId key)
    (found : PlainKey key →
      fs' (join (utf8 dir.path) (utf8 key)) = fs (join (utf8 dir.path) (utf8 key))) :
    SameSecret ((readFromDir (utf8 dir.path) key).run fs)
      ((CSharp.readFromDir dir.path key).run fs') := by
  cases checked : CSharp.isSafeCredentialId key with
  | true =>
      exact sameSecret_of_accepted checked
        (found ((csharp_isSafeCredentialId_iff key).mp checked).1)
  | false =>
      rw [readFromDir_of_rejected _ (alike.symm.trans checked),
        CSharp.readFromDir_of_rejected _ checked]
      exact SameSecret.secretNotFound key

/-! ## The files that .NET finds -/

/-- The directory is there, or is named without `..`. -/
def CredentialsDirectory.Direct (dir : CredentialsDirectory) (w : World) : Prop :=
  [dot, dot] ∉ pieces (utf8 dir.path) ∨ ∃ loc, w.resolve (utf8 dir.path) = .ok loc

/-- .NET finds in the directory what is there: its path is normal, or it is in a plain
tree, and there or named without `..`. -/
def CredentialsDirectory.Found (dir : CredentialsDirectory) (fs : Bytes → Except Errno Bytes) :
    Prop :=
  normalize (utf8 dir.path) = utf8 dir.path ∨ ∃ w : World, fs = w.readFile ∧ dir.Direct w

/-- The file of a plain key is found in such a directory. -/
theorem CredentialsDirectory.Found.atFullPath_eq {fs : Bytes → Except Errno Bytes}
    (found : dir.Found fs) (plain : PlainKey key) :
    atFullPath fs (join (utf8 dir.path) (utf8 key)) = fs (join (utf8 dir.path) (utf8 key)) := by
  have name := (plainName_utf8_iff plain.noNul).mpr plain
  rcases found with normal | ⟨w, rfl, direct⟩
  · exact CSharp.atFullPath_join_of_normal normal name fs
  · exact CSharp.atFullPath_join_of_direct dir.isAbsolute (combine_accessible dir plain).1 name
      direct

/-- In one world .NET reads by the full path what the system reads. -/
theorem sameSecret_of_direct {w : World} (direct : dir.Direct w)
    (alike : CSharp.isSafeCredentialId key = isSafeCredentialId key) :
    SameSecret ((readFromDir (utf8 dir.path) key).run w.readFile)
      ((CSharp.readFromDir dir.path key).run (readFull w)) := by
  apply sameSecret_of_alike alike
  intro plain
  have absolute := isAbsolute_join dir.isAbsolute plain.namePieces.utf8_key.1
  rw [CSharp.readFull_of_isAbsolute absolute (combine_accessible dir plain).1]
  exact CredentialsDirectory.Found.atFullPath_eq (Or.inr ⟨w, rfl, direct⟩) plain

/-- A credentials directory. -/
def runCredentials : CredentialsDirectory where
  path := "/run".toList
  isAbsolute := by decide
  noNul := by decide

end KdbxCredentials.SecretStore
