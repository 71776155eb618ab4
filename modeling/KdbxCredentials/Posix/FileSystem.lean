import KdbxCredentials.Posix.Path

/-!
# File systems and path resolution

A file system is a tree of directories, regular files and other nodes, with the
permissions of the calling process on each.  A path is resolved one piece at a
time, from the root or from the working directory, and resolution stops at the
first piece that fails.  The three ways of failing are named without reference
to error numbers: a name is missing, a node on the way is not a directory, or a
directory on the way may not be searched.
-/

namespace KdbxCredentials.Posix

open KdbxCredentials.Text

universe u v w

/-- Error numbers of `open`, `read` and `stat`. -/
inductive Errno
  | enoent
  | eacces
  | enotdir
  | eisdir
  | eloop
  | enametoolong
  | eio
  deriving DecidableEq, Repr

/-- A node of a file system.  Reading a special node yields its stream, or
fails when there is none. -/
inductive FsNode
  | directory (searchable : Bool) (entries : List (Bytes × FsNode))
  | regular (readable : Bool) (contents : Bytes)
  | special (readable : Bool) (stream : Option Bytes)

namespace FsNode

def isDirectory : FsNode → Bool
  | directory _ _ => true
  | regular _ _ => false
  | special _ _ => false

def isRegular : FsNode → Bool
  | directory _ _ => false
  | regular _ _ => true
  | special _ _ => false

/-- The node may be opened for reading.  A directory can be opened, though not
read. -/
def isReadable : FsNode → Bool
  | directory _ _ => true
  | regular readable _ => readable
  | special readable _ => readable

/-- Read a node to its end. -/
def read : FsNode → Except Errno Bytes
  | directory _ _ => .error .eisdir
  | regular readable contents => if readable then .ok contents else .error .eacces
  | special readable stream =>
      if readable then
        match stream with
        | some contents => .ok contents
        | none => .error .eio
      else
        .error .eacces

/-- Going on from the node would search a directory that refuses it. -/
def Refuses (node : FsNode) (piece : Bytes) : Prop :=
  piece ≠ [] ∧ ∃ entries, node = .directory false entries

/-- The node is a directory that may be searched and has no such entry. -/
def Lacks (node : FsNode) (piece : Bytes) : Prop :=
  (piece ≠ [] ∧ piece ≠ [dot] ∧ piece ≠ [dot, dot]) ∧
    ∃ entries, node = .directory true entries ∧ entries.lookup piece = none

variable {node : FsNode} {piece : Bytes}

theorem Refuses.isDirectory (refuses : node.Refuses piece) : node.isDirectory = true := by
  rcases refuses with ⟨_, entries, rfl⟩
  rfl

theorem Lacks.isDirectory (lacks : node.Lacks piece) : node.isDirectory = true := by
  rcases lacks with ⟨_, entries, rfl, _⟩
  rfl

theorem Lacks.not_refuses (lacks : node.Lacks piece) : ¬node.Refuses piece := by
  rcases lacks with ⟨_, entries, rfl, _⟩
  rintro ⟨_, entries', node_eq⟩
  cases node_eq

end FsNode

/-! ## Walking the tree -/

/-- A node and the directories above it, nearest first. -/
structure Location where
  node : FsNode
  ancestors : List FsNode

/-- The parent directory; the root is its own parent. -/
def Location.parent (loc : Location) : Location :=
  match loc.ancestors with
  | [] => loc
  | above :: rest => ⟨above, rest⟩

/-- Resolve one piece of a path.  An empty piece comes from a repeated or
trailing slash: it requires a directory and does not search it. -/
def step (loc : Location) (piece : Bytes) : Except Errno Location :=
  match loc.node with
  | .directory searchable entries =>
      if piece = [] then .ok loc
      else if searchable = false then .error .eacces
      else if piece = [dot] then .ok loc
      else if piece = [dot, dot] then .ok loc.parent
      else
        match entries.lookup piece with
        | some child => .ok ⟨child, loc.node :: loc.ancestors⟩
        | none => .error .enoent
  | .regular _ _ => .error .enotdir
  | .special _ _ => .error .enotdir

/-- Resolve the pieces of a path in turn. -/
def walk (loc : Location) (path : List Bytes) : Except Errno Location :=
  path.foldlM step loc

/-- One step fails in one of three ways, or succeeds. -/
theorem step_cases (loc : Location) (piece : Bytes) :
    (loc.node.isDirectory = false ∧ step loc piece = .error .enotdir) ∨
      (loc.node.Refuses piece ∧ step loc piece = .error .eacces) ∨
      (loc.node.Lacks piece ∧ step loc piece = .error .enoent) ∨
      (loc.node.isDirectory = true ∧ ¬loc.node.Refuses piece ∧ ¬loc.node.Lacks piece ∧
        ∃ next, step loc piece = .ok next) := by
  rcases loc with ⟨node, ancestors⟩
  cases node with
  | regular _ _ => exact Or.inl ⟨rfl, rfl⟩
  | special _ _ => exact Or.inl ⟨rfl, rfl⟩
  | directory searchable entries =>
      by_cases empty : piece = []
      · simp [step, FsNode.Refuses, FsNode.Lacks, FsNode.isDirectory, empty]
      · cases searchable with
        | false => simp [step, FsNode.Refuses, empty]
        | true =>
            by_cases special : piece = [dot] ∨ piece = [dot, dot]
            · rcases special with rfl | rfl <;>
                simp [step, FsNode.Refuses, FsNode.Lacks, FsNode.isDirectory]
            · rcases not_or.mp special with ⟨not_dot, not_dotDot⟩
              cases lookup : entries.lookup piece with
              | none =>
                  right; right; left
                  exact ⟨⟨⟨empty, not_dot, not_dotDot⟩, entries, rfl, lookup⟩,
                    by simp only [step, empty, not_dot, not_dotDot, lookup, if_false,
                      Bool.true_eq_false]⟩
              | some child =>
                  have found : step ⟨.directory true entries, ancestors⟩ piece =
                      .ok ⟨child, .directory true entries :: ancestors⟩ := by
                    simp only [step, empty, not_dot, not_dotDot, lookup, if_false,
                      Bool.true_eq_false]
                  have has : ¬(FsNode.directory true entries).Lacks piece := by
                    rintro ⟨_, entries', node_eq, missing⟩
                    cases node_eq
                    rw [lookup] at missing
                    cases missing
                  right; right; right
                  exact ⟨rfl, by simp [FsNode.Refuses], has, _, found⟩

theorem step_eq_enotdir_iff (loc : Location) (piece : Bytes) :
    step loc piece = .error .enotdir ↔ loc.node.isDirectory = false := by
  rcases step_cases loc piece with
    ⟨kind, result⟩ | ⟨refuses, result⟩ | ⟨lacks, result⟩ | ⟨kind, _, _, next, result⟩ <;>
    rw [result]
  · simp [kind]
  · simp [refuses.isDirectory]
  · simp [lacks.isDirectory]
  · simp [kind]

theorem step_eq_eacces_iff (loc : Location) (piece : Bytes) :
    step loc piece = .error .eacces ↔ loc.node.Refuses piece := by
  rcases step_cases loc piece with
    ⟨kind, result⟩ | ⟨refuses, result⟩ | ⟨lacks, result⟩ | ⟨_, free, _, next, result⟩ <;>
    rw [result]
  · have free : ¬loc.node.Refuses piece := fun refuses => by simp [refuses.isDirectory] at kind
    simp [free]
  · simp [refuses]
  · simp [lacks.not_refuses]
  · simp [free]

theorem step_eq_enoent_iff (loc : Location) (piece : Bytes) :
    step loc piece = .error .enoent ↔ loc.node.Lacks piece := by
  rcases step_cases loc piece with
    ⟨kind, result⟩ | ⟨refuses, result⟩ | ⟨lacks, result⟩ | ⟨_, _, has, next, result⟩ <;>
    rw [result]
  · have has : ¬loc.node.Lacks piece := fun lacks => by simp [lacks.isDirectory] at kind
    simp [has]
  · have has : ¬loc.node.Lacks piece := fun lacks => lacks.not_refuses refuses
    simp [has]
  · simp [lacks]
  · simp [has]

/-- A step fails in no other way. -/
theorem step_errno {loc : Location} {piece : Bytes} {e : Errno}
    (failed : step loc piece = .error e) : e = .enotdir ∨ e = .eacces ∨ e = .enoent := by
  rcases step_cases loc piece with
    ⟨_, result⟩ | ⟨_, result⟩ | ⟨_, result⟩ | ⟨_, _, _, next, result⟩ <;>
    rw [result] at failed <;> cases failed <;> simp

/-- A fold that can fail does so exactly when some step does, after all earlier
ones succeeded. -/
theorem foldlM_eq_error_iff {σ : Type u} {α : Type v} {ε : Type w} (next : σ → α → Except ε σ)
    (start : σ) (l : List α) (e : ε) :
    l.foldlM next start = .error e ↔
      ∃ before x after s, l = before ++ x :: after ∧ before.foldlM next start = .ok s ∧
        next s x = .error e := by
  induction l generalizing start with
  | nil => simp [pure, Except.pure]
  | cons y rest ih =>
      rw [List.foldlM_cons]
      cases first : next start y with
      | error e' =>
          constructor
          · intro failed
            have same : e' = e := Except.error.inj failed
            rw [same] at first
            exact ⟨[], y, rest, start, rfl, rfl, first⟩
          · rintro ⟨before, x, after, s, split, reached, failed⟩
            cases before with
            | nil =>
                cases split
                cases reached
                rw [first] at failed
                exact failed
            | cons z before =>
                cases split
                rw [List.foldlM_cons, first] at reached
                cases reached
      | ok s' =>
          change rest.foldlM next s' = .error e ↔ _
          rw [ih]
          constructor
          · rintro ⟨before, x, after, s, split, reached, failed⟩
            refine ⟨y :: before, x, after, s, by rw [split, List.cons_append], ?_, failed⟩
            rw [List.foldlM_cons, first]
            exact reached
          · rintro ⟨before, x, after, s, split, reached, failed⟩
            cases before with
            | nil =>
                cases split
                cases reached
                rw [first] at failed
                cases failed
            | cons z before =>
                cases split
                rw [List.foldlM_cons, first] at reached
                exact ⟨before, x, after, s, rfl, reached, failed⟩

/-- A plain name is looked up in a directory that may be searched. -/
theorem step_plain {loc : Location} {entries : List (Bytes × FsNode)} {name : Bytes}
    (here : loc.node = .directory true entries) (plain : PlainName name) :
    step loc name =
      match entries.lookup name with
      | some child => .ok ⟨child, loc.node :: loc.ancestors⟩
      | none => .error .enoent := by
  rw [step, here]
  simp only [plain.nonempty, plain.not_dot, plain.not_dotDot, if_false, Bool.true_eq_false]

/-- Empty and `.` pieces stay in a directory that may be searched. -/
theorem walk_blank {loc : Location} {entries : List (Bytes × FsNode)}
    (here : loc.node = .directory true entries) {path : List Bytes}
    (blank : ∀ piece ∈ path, piece = [] ∨ piece = [dot]) : walk loc path = .ok loc := by
  induction path with
  | nil => rfl
  | cons piece rest ih =>
      have stays : step loc piece = .ok loc := by
        rcases blank piece List.mem_cons_self with rfl | rfl <;> simp [step, here]
      rw [walk, List.foldlM_cons, stays]
      exact ih fun later member => blank later (List.mem_cons_of_mem piece member)

/-! ## Worlds -/

/-- What a process sees of the file system: the tree and its working directory,
as the names that lead there from the root. -/
structure World where
  root : FsNode
  cwd : List Bytes

/-- An entry of the directory at a location, permissions aside. -/
def Location.enter (loc : Location) (name : Bytes) : Option Location :=
  match loc.node with
  | .directory _ entries =>
      (entries.lookup name).map fun child => ⟨child, loc.node :: loc.ancestors⟩
  | .regular _ _ => none
  | .special _ _ => none

namespace World

/-- The working directory.  The process holds it open, so it needs no search. -/
def workingDirectory (w : World) : Option Location :=
  w.cwd.foldlM Location.enter ⟨w.root, []⟩

/-- Where the resolution of a path starts. -/
def start (w : World) (path : Bytes) : Except Errno Location :=
  if isAbsolute path then .ok ⟨w.root, []⟩
  else
    match w.workingDirectory with
    | some loc => .ok loc
    | none => .error .enoent

/-- Resolve a path; an ill-formed path names nothing. -/
def resolve (w : World) (path : Bytes) : Except Errno Location :=
  if WellFormed path then do
    let loc ← w.start path
    walk loc (pieces path)
  else
    .error .enoent

/-- Open a path for reading. -/
def openFile (w : World) (path : Bytes) : Except Errno FsNode := do
  let loc ← w.resolve path
  if loc.node.isReadable then .ok loc.node else .error .eacces

/-- Open a path and read it to its end. -/
def readFile (w : World) (path : Bytes) : Except Errno Bytes := do
  let loc ← w.resolve path
  loc.node.read

/-! ## How a resolution ends -/

/-- Resolution gets to `loc`, with `piece` next. -/
def Meets (w : World) (path : Bytes) (loc : Location) (piece : Bytes) : Prop :=
  WellFormed path ∧ ∃ origin before after, w.start path = .ok origin ∧
    pieces path = before ++ piece :: after ∧ walk origin before = .ok loc

/-- A directory on the way may not be searched. -/
def Refused (w : World) (path : Bytes) : Prop :=
  ∃ loc piece, w.Meets path loc piece ∧ loc.node.Refuses piece

/-- A node on the way is not a directory. -/
def ThroughNonDirectory (w : World) (path : Bytes) : Prop :=
  ∃ loc piece, w.Meets path loc piece ∧ loc.node.isDirectory = false

/-- The path is ill-formed, its starting directory is gone, or a name is missing. -/
def Missing (w : World) (path : Bytes) : Prop :=
  ¬WellFormed path ∨ (isAbsolute path = false ∧ w.workingDirectory = none) ∨
    ∃ loc piece, w.Meets path loc piece ∧ loc.node.Lacks piece

/-- The path names a node. -/
def ResolvesTo (w : World) (path : Bytes) (node : FsNode) : Prop :=
  ∃ loc, w.resolve path = .ok loc ∧ loc.node = node

variable (w : World) (path : Bytes)

/-- A walk that fails does so at a piece it meets. -/
theorem walk_eq_error_iff {origin : Location} (formed : WellFormed path)
    (started : w.start path = .ok origin) (e : Errno) :
    walk origin (pieces path) = .error e ↔
      ∃ loc piece, w.Meets path loc piece ∧ step loc piece = .error e := by
  rw [walk, foldlM_eq_error_iff]
  constructor
  · rintro ⟨before, piece, after, loc, split, reached, failed⟩
    exact ⟨loc, piece, ⟨formed, origin, before, after, started, split, reached⟩, failed⟩
  · rintro ⟨loc, piece, ⟨_, origin', before, after, started', split, reached⟩, failed⟩
    rw [started] at started'
    cases started'
    exact ⟨before, piece, after, loc, split, reached, failed⟩

theorem start_eq_error_iff (e : Errno) :
    w.start path = .error e ↔
      e = .enoent ∧ isAbsolute path = false ∧ w.workingDirectory = none := by
  rw [start]
  cases isAbsolute path with
  | true => simp
  | false =>
      cases w.workingDirectory with
      | some loc => simp
      | none => simpa using eq_comm

/-- Resolution fails because it has nowhere to start, or at a piece it meets. -/
theorem resolve_eq_error_iff (e : Errno) :
    w.resolve path = .error e ↔
      (e = .enoent ∧ (¬WellFormed path ∨ isAbsolute path = false ∧ w.workingDirectory = none)) ∨
        ∃ loc piece, w.Meets path loc piece ∧ step loc piece = .error e := by
  rw [resolve]
  by_cases formed : WellFormed path
  · rw [if_pos formed]
    cases started : w.start path with
    | error e' =>
        have stuck := (start_eq_error_iff w path e').mp started
        have nowhere : ¬∃ loc piece, w.Meets path loc piece ∧ step loc piece = .error e := by
          rintro ⟨loc, piece, ⟨_, origin, _, _, started', _⟩, _⟩
          rw [started] at started'
          cases started'
        rw [or_iff_left nowhere, stuck.1]
        constructor
        · intro failed
          exact ⟨(Except.error.inj failed).symm, Or.inr stuck.2⟩
        · rintro ⟨rfl, _⟩
          rfl
    | ok origin =>
        have moving : ¬(isAbsolute path = false ∧ w.workingDirectory = none) := by
          intro stuck
          have failed := (start_eq_error_iff w path .enoent).mpr ⟨rfl, stuck⟩
          rw [started] at failed
          cases failed
        change walk origin (pieces path) = .error e ↔ _
        rw [walk_eq_error_iff w path formed started]
        simp [formed, moving]
  · rw [if_neg formed]
    constructor
    · intro failed
      exact Or.inl ⟨(Except.error.inj failed).symm, Or.inl formed⟩
    · rintro (⟨rfl, _⟩ | ⟨loc, piece, ⟨formed', _⟩, _⟩)
      · rfl
      · contradiction

theorem resolve_eq_eacces_iff : w.resolve path = .error .eacces ↔ w.Refused path := by
  simp only [resolve_eq_error_iff, step_eq_eacces_iff, Refused, reduceCtorEq, false_and, false_or]

theorem resolve_eq_enotdir_iff :
    w.resolve path = .error .enotdir ↔ w.ThroughNonDirectory path := by
  simp only [resolve_eq_error_iff, step_eq_enotdir_iff, ThroughNonDirectory, reduceCtorEq,
    false_and, false_or]

theorem resolve_eq_enoent_iff : w.resolve path = .error .enoent ↔ w.Missing path := by
  simp only [resolve_eq_error_iff, step_eq_enoent_iff, Missing, true_and, or_assoc]

/-- The resolution of a path ends in one of four ways. -/
theorem resolve_cases :
    (w.resolve path = .error .enoent ∧ w.Missing path) ∨
      (w.resolve path = .error .enotdir ∧ w.ThroughNonDirectory path) ∨
      (w.resolve path = .error .eacces ∧ w.Refused path) ∨
      ∃ loc, w.resolve path = .ok loc ∧ w.ResolvesTo path loc.node := by
  cases result : w.resolve path with
  | ok loc => exact Or.inr (Or.inr (Or.inr ⟨loc, rfl, loc, result, rfl⟩))
  | error e =>
      have known : e = .enotdir ∨ e = .eacces ∨ e = .enoent := by
        rcases (resolve_eq_error_iff w path e).mp result with
          ⟨e_eq, _⟩ | ⟨loc, piece, _, failed⟩
        · exact Or.inr (Or.inr e_eq)
        · exact step_errno failed
      rcases known with rfl | rfl | rfl
      · exact Or.inr (Or.inl ⟨rfl, (resolve_eq_enotdir_iff w path).mp result⟩)
      · exact Or.inr (Or.inr (Or.inl ⟨rfl, (resolve_eq_eacces_iff w path).mp result⟩))
      · exact Or.inl ⟨rfl, (resolve_eq_enoent_iff w path).mp result⟩

/-- To read a file is to open it and read what has been opened. -/
theorem openFile_bind_read :
    (fun path => w.openFile path >>= FsNode.read) = w.readFile := by
  funext path
  rw [openFile, readFile]
  cases w.resolve path with
  | error e => rfl
  | ok loc =>
      change (if loc.node.isReadable then .ok loc.node else .error .eacces) >>= _ = loc.node.read
      cases loc.node with
      | directory searchable entries => rfl
      | regular readable contents => cases readable <;> rfl
      | special readable stream => cases readable <;> rfl

variable {w path}

/-- A path that resolves names one node, and nothing is the matter with it. -/
theorem of_resolve_eq_ok {loc : Location} (found : w.resolve path = .ok loc) :
    ¬w.Missing path ∧ ¬w.ThroughNonDirectory path ∧ ¬w.Refused path ∧
      ∀ node, w.ResolvesTo path node ↔ loc.node = node := by
  rw [← resolve_eq_enoent_iff, ← resolve_eq_enotdir_iff, ← resolve_eq_eacces_iff, found]
  simp [ResolvesTo, found]

/-- A path that does not resolve names no node. -/
theorem not_resolvesTo_of_error {e : Errno} (failed : w.resolve path = .error e)
    (node : FsNode) : ¬w.ResolvesTo path node := by
  rintro ⟨loc, found, _⟩
  rw [failed] at found
  cases found

/-- A node that is found is opened if it may be read. -/
theorem openFile_of_ok {loc : Location} (found : w.resolve path = .ok loc) :
    w.openFile path = if loc.node.isReadable then .ok loc.node else .error .eacces := by
  rw [openFile, found]
  rfl

/-- An absolute path resolves alike from every working directory. -/
theorem resolve_of_isAbsolute {w' : World} (sameRoot : w.root = w'.root)
    (absolute : isAbsolute path = true) : w.resolve path = w'.resolve path := by
  simp only [resolve, start, absolute, if_true, sameRoot]

theorem readFile_of_isAbsolute {w' : World} (sameRoot : w.root = w'.root)
    (absolute : isAbsolute path = true) : w.readFile path = w'.readFile path := by
  rw [readFile, readFile, resolve_of_isAbsolute sameRoot absolute]

end World

end KdbxCredentials.Posix
