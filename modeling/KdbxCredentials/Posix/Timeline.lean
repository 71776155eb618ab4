import KdbxCredentials.Effects.Core
import KdbxCredentials.Posix.Program

/-!
# File systems that change under a process

Between two calls of a process anything may happen to the file system.  A timeline
says which world each call finds, in order, and what a file that is open yields when
it is read: its contents may be rewritten in place after it has been opened.  A record
of the calls is kept.  In a quiet timeline, whose worlds are all the same and whose
files yield what they hold, a program of file reads has the result of its run in that
world.
-/

namespace KdbxCredentials.Posix

open KdbxCredentials.Text
open KdbxCredentials.Effects

universe u

/-- The calls of a process: to open a file, read it to its end and close it, to
examine a path or the directory that it is in, to open a file, and to read the file
that has been opened. -/
inductive Call
  | read (path : Bytes)
  | stat (path : Bytes)
  | statDirectory (path : Bytes)
  | openFile (path : Bytes)
  | readOpened (path : Bytes)
  deriving DecidableEq, Repr

/-- The worlds that successive calls find, what nodes yield that are read by these
calls, and the calls so far. -/
structure Timeline where
  world : Nat → World
  yields : Nat → FsNode → Except Errno Bytes
  calls : List Call := []

namespace Timeline

/-- The world that the next call finds. -/
def now (t : Timeline) : World :=
  t.world t.calls.length

/-- What an open node yields to the call of this number.  A directory is not read. -/
def contentsAt (t : Timeline) (n : Nat) (node : FsNode) : Except Errno Bytes :=
  if node.isDirectory then .error .eisdir else t.yields n node

/-- What an open node yields to the next call. -/
def contents (t : Timeline) : FsNode → Except Errno Bytes :=
  t.contentsAt t.calls.length

/-- What the next call reads that opens a file itself. -/
def reads (opens : World → Bytes → Except Errno FsNode) (t : Timeline) (path : Bytes) :
    Except Errno Bytes := do
  let node ← opens t.now path
  t.contents node

def record (t : Timeline) (call : Call) : Timeline :=
  { t with calls := t.calls ++ [call] }

@[simp]
theorem world_record (t : Timeline) (call : Call) : (t.record call).world = t.world :=
  rfl

@[simp]
theorem calls_record (t : Timeline) (call : Call) :
    (t.record call).calls = t.calls ++ [call] :=
  rfl

@[simp]
theorem length_calls_record (t : Timeline) (call : Call) :
    (t.record call).calls.length = t.calls.length + 1 :=
  List.length_append

/-- Two calls stand in the record in their order. -/
theorem record_record (t : Timeline) (call call' : Call) :
    (t.record call).record call' = { t with calls := t.calls ++ [call, call'] } := by
  simp [record]

/-- A call finds the world after the one that the call before it found. -/
@[simp]
theorem now_record (t : Timeline) (call : Call) :
    (t.record call).now = t.world (t.calls.length + 1) := by
  rw [now, length_calls_record, world_record]

@[simp]
theorem contents_record (t : Timeline) (call : Call) :
    (t.record call).contents = t.contentsAt (t.calls.length + 1) := by
  rw [contents, length_calls_record]
  rfl

/-- Nothing happens to the file system. -/
structure Quiet (t : Timeline) (w : World) : Prop where
  world : ∀ n, t.world n = w
  yields : ∀ n node, t.yields n node = node.read

variable {t : Timeline} {w : World}

theorem Quiet.contentsAt (quiet : t.Quiet w) (n : Nat) : t.contentsAt n = FsNode.read := by
  funext node
  rw [Timeline.contentsAt, quiet.yields]
  cases node <;> rfl

/-- In a quiet timeline a file is read in its world. -/
theorem Quiet.reads (quiet : t.Quiet w) (opens : World → Bytes → Except Errno FsNode) :
    t.reads opens = fun path => opens w path >>= FsNode.read := by
  funext path
  rw [Timeline.reads, Timeline.contents, quiet.contentsAt, now, quiet.world]

end Timeline

variable {ε α : Type}

/-- A call, answered by the timeline at its moment. -/
def systemCall (call : Call) (answer : Timeline → Except ε α) : Action Timeline ε α := do
  let t ← get
  set (t.record call)
  ofExcept (answer t)

@[simp]
theorem exec_systemCall (call : Call) (answer : Timeline → Except ε α) (t : Timeline) :
    exec (systemCall call answer) t = (answer t, t.record call) :=
  exec_ofExcept (answer t) (t.record call)

namespace FileProgram

/-- A program of file reads, each of them one call, by the way in which its language
opens files. -/
def perform (opens : World → Bytes → Except Errno FsNode) :
    FileProgram (Except ε α) → Action Timeline ε α
  | done result => ofExcept result
  | read path next => do
      let answer ← systemCall (.read path) fun t => .ok (t.reads opens path)
      (next answer).perform opens

variable {opens : World → Bytes → Except Errno FsNode}

/-- A program that reads nothing makes no call. -/
theorem exec_perform_done (result : Except ε α) (t : Timeline) :
    exec ((done result).perform opens) t = (result, t) :=
  exec_ofExcept result t

/-- A program with one read is answered by the moment of its call. -/
theorem exec_perform_read {path : Bytes} {next : Except Errno Bytes → FileProgram (Except ε α)}
    {result : Except Errno Bytes → Except ε α} (ends : ∀ answer, next answer = done (result answer))
    (t : Timeline) :
    exec ((read path next).perform opens) t =
      ((read path next).run (t.reads opens), t.record (.read path)) := by
  rw [perform, exec_bind, exec_systemCall]
  dsimp only
  rw [run, ends, exec_perform_done]
  rfl

end FileProgram

end KdbxCredentials.Posix
