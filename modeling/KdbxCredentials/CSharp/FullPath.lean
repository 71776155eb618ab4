import KdbxCredentials.Posix.Lexical

/-!
# Full paths

The file methods of .NET work on `Path.GetFullPath` of the path that they are given.
It puts the current directory before a relative path and then removes `.`, `..` and
repeated slashes from the text.  The system only sees the result, so that names before
a `..` need not exist, and the directories above the current one have to be searched.
-/

namespace KdbxCredentials.CSharp

open KdbxCredentials.Text
open KdbxCredentials.Posix

/-- `getcwd`, which fails when the working directory is gone. -/
def getcwd (w : World) : Except Errno Bytes :=
  match w.workingDirectory with
  | some _ => .ok (if w.cwd = [] then [slash] else w.cwd.flatMap (slash :: ·))
  | none => .error .enoent

/-- `Path.GetFullPath`.  A path that is empty or has a NUL in it has none; for it the
methods throw an `ArgumentException`.  The current directory becomes a string on the
way. -/
def getFullPath (w : World) (path : Bytes) : Except Errno Bytes :=
  if ¬WellFormed path then .error .enoent
  else if isAbsolute path then .ok (normalize path)
  else do
    let dir ← getcwd w
    return normalize (join (utf8 (decodeUtf8Lossy dir)) path)

/-- Resolve the full path. -/
def resolveFull (w : World) (path : Bytes) : Except Errno Location := do
  let full ← getFullPath w path
  w.resolve full

/-- Open the full path for reading. -/
def openFull (w : World) (path : Bytes) : Except Errno FsNode := do
  let full ← getFullPath w path
  w.openFile full

/-- Open the full path and read it to its end. -/
def readFull (w : World) (path : Bytes) : Except Errno Bytes := do
  let full ← getFullPath w path
  w.readFile full

/-- What .NET reads at an absolute path, by the answers of the system to paths. -/
def atFullPath (fs : Bytes → Except Errno Bytes) (path : Bytes) : Except Errno Bytes :=
  fs (normalize path)

variable {w : World} {path : Bytes}

theorem getFullPath_of_isAbsolute (absolute : isAbsolute path = true) (noNul : nul ∉ path) :
    getFullPath w path = .ok (normalize path) := by
  have formed : WellFormed path := by
    refine ⟨?_, noNul⟩
    rintro rfl
    cases absolute
  rw [getFullPath, if_neg (not_not.mpr formed), if_pos absolute]

theorem resolveFull_of_isAbsolute (absolute : isAbsolute path = true) (noNul : nul ∉ path) :
    resolveFull w path = w.resolve (normalize path) := by
  rw [resolveFull, getFullPath_of_isAbsolute absolute noNul]
  rfl

/-- An absolute path is read whatever the working directory is. -/
theorem readFull_of_isAbsolute (absolute : isAbsolute path = true) (noNul : nul ∉ path) :
    readFull w path = atFullPath w.readFile path := by
  rw [readFull, getFullPath_of_isAbsolute absolute noNul]
  rfl

theorem resolveFull_of_illFormed (illFormed : ¬WellFormed path) :
    resolveFull w path = .error .enoent := by
  rw [resolveFull, getFullPath, if_pos illFormed]
  rfl

/-- Only a well-formed path names something. -/
theorem wellFormed_of_resolveFull {loc : Location} (found : resolveFull w path = .ok loc) :
    WellFormed path := by
  by_contra illFormed
  rw [resolveFull_of_illFormed illFormed] at found
  cases found

/-- What the full path names is read. -/
theorem readFull_eq (w : World) (path : Bytes) :
    readFull w path = resolveFull w path >>= fun loc => loc.node.read := by
  rw [readFull, resolveFull]
  cases getFullPath w path <;> rfl

/-! ## Paths that keep their meaning -/

/-- The full path resolves as the path itself does. -/
def KeepsMeaning (w : World) (path : Bytes) : Prop :=
  resolveFull w path = w.resolve path

/-- An absolute path that names something keeps its meaning, and so does one without
`.` and `..` pieces. -/
theorem keepsMeaning_of_isAbsolute (absolute : isAbsolute path = true) (noNul : nul ∉ path)
    (direct : (∃ loc, w.resolve path = .ok loc) ∨
      [dot] ∉ pieces path ∧ [dot, dot] ∉ pieces path) : KeepsMeaning w path := by
  rw [KeepsMeaning, resolveFull_of_isAbsolute absolute noNul]
  rcases direct with ⟨loc, found⟩ | ⟨noDot, noParent⟩
  · rw [World.resolve_normalize_of_ok absolute found, found]
  · exact World.resolve_normalize_of_straight absolute noNul ⟨noParent, Or.inr noDot⟩

/-- To read a file is to open it and read what has been opened. -/
theorem openFull_bind_read (w : World) :
    (fun path => openFull w path >>= FsNode.read) = readFull w := by
  funext path
  rw [openFull, readFull]
  cases getFullPath w path with
  | error e => rfl
  | ok full => exact congrFun w.openFile_bind_read full

/-! ## Entries of a directory -/

/-- An entry of a directory with a normal path is read where it is. -/
theorem atFullPath_join_of_normal {base name : Bytes} (normal : normalize base = base)
    (plain : PlainName name) (fs : Bytes → Except Errno Bytes) :
    atFullPath fs (join base name) = fs (join base name) :=
  congrArg fs (normalize_join normal plain)

/-- So is an entry of a directory that is there, or that is named without `..`. -/
theorem atFullPath_join_of_direct {base name : Bytes} (absolute : isAbsolute base = true)
    (noNul : nul ∉ join base name) (plain : PlainName name)
    (direct : [dot, dot] ∉ pieces base ∨ ∃ loc, w.resolve base = .ok loc) :
    atFullPath w.readFile (join base name) = w.readFile (join base name) := by
  rw [atFullPath, World.readFile, World.resolve_normalize_join absolute noNul plain direct,
    World.readFile]

/-- The full path of `/dir/nope/../f` is `/dir/f`, whether there is a `/dir/nope` or
not. -/
example : normalize (utf8 "/dir/nope/../f".toList) = utf8 "/dir/f".toList := by decide

end KdbxCredentials.CSharp
