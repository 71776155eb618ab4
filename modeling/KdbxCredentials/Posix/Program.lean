import KdbxCredentials.Posix.FileSystem

/-!
# Programs that read files

A program that only reads whole files is a tree of reads with a continuation
for each answer.  A read names the path that the code gives; the file functions of
its language answer it, on a file system.  What such a program can depend on is then
visible in its shape: two file systems that answer alike on the paths it opens give
the same result, and a program without a read depends on neither.
-/

namespace KdbxCredentials.Posix

open KdbxCredentials.Text

universe u v

/-- A computation that may open files by path and read them. -/
inductive FileProgram (α : Type u)
  | done (result : α)
  | read (path : Bytes) (next : Except Errno Bytes → FileProgram α)

namespace FileProgram

variable {α : Type u} {β : Type v}

/-- Run a program against the answers of a file system. -/
def run (fs : Bytes → Except Errno Bytes) : FileProgram α → α
  | done result => result
  | read path next => (next (fs path)).run fs

/-- The paths that a run opens, in order. -/
def opened (fs : Bytes → Except Errno Bytes) : FileProgram α → List Bytes
  | done _ => []
  | read path next => path :: (next (fs path)).opened fs

/-- Apply a function to the result. -/
def map (f : α → β) : FileProgram α → FileProgram β
  | done result => done (f result)
  | read path next => read path fun answer => (next answer).map f

@[simp]
theorem run_map (f : α → β) (fs : Bytes → Except Errno Bytes) (program : FileProgram α) :
    (program.map f).run fs = f (program.run fs) := by
  induction program with
  | done result => rfl
  | read path next ih => exact ih (fs path)

@[simp]
theorem opened_map (f : α → β) (fs : Bytes → Except Errno Bytes) (program : FileProgram α) :
    (program.map f).opened fs = program.opened fs := by
  induction program with
  | done result => rfl
  | read path next ih => exact congrArg (path :: ·) (ih (fs path))

/-- A run depends only on the answers for the paths it opens. -/
theorem run_congr {fs fs' : Bytes → Except Errno Bytes} (program : FileProgram α)
    (agree : ∀ path ∈ program.opened fs, fs path = fs' path) :
    program.run fs = program.run fs' := by
  induction program with
  | done result => rfl
  | read path next ih =>
      have here : fs path = fs' path := agree path List.mem_cons_self
      rw [run, run, ← here]
      apply ih
      intro later member
      exact agree later (List.mem_cons_of_mem path member)

end FileProgram

end KdbxCredentials.Posix
