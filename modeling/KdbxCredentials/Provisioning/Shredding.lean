import KdbxCredentials.Provisioning.Storing

/-!
# Shredding the password file

Whatever commands of the provisioning script fail, and however its first part
ends, the password file is overwritten and deleted, unless one of the commands
that do this fails.  Such a failure is reported on the console or ends the
script with an error, but it does not change the exit code of a credential that
has been written.  The zeros go to the file that .NET finds under the path; if this is
another file than PowerShell's, the password file is deleted as it was.
-/

namespace KdbxCredentials.Provisioning

open KdbxCredentials.Text
open KdbxCredentials.Effects

variable (p : Parameters) (s : Surroundings) {α : Type}

/-- What a deleted file held last: as many zeros as it had bytes, if it is the file that
.NET has overwritten. -/
def residue (s : Surroundings) (contents : Bytes) : Bytes :=
  if s.samePath then List.replicate contents.length 0 else contents

/-- The file is gone, and what is left of it is its residue. -/
structure Deleted (s : Surroundings) (file : Option Bytes) (m : Machine) : Prop where
  gone : m.passwordFile = none
  remains : m.remains = (file.map (residue s)).toList

/-- The file is gone, and all that is left of it is as many zeros as it had bytes. -/
structure Shredded (file : Option Bytes) (m : Machine) : Prop where
  gone : m.passwordFile = none
  overwritten : m.remains = (file.map fun contents => List.replicate contents.length 0).toList

/-- A message stands on the console, with a date before it. -/
def Printed (message : Str) (m : Machine) : Prop :=
  ∃ date, date ++ "  ".toList ++ message ∈ m.console

/-- A command fails from the given one on. -/
def Faulted (start : Nat) : Prop :=
  ∃ n, start ≤ n ∧ s.fault n ≠ none

/-- An assertion that is reached at some command or later. -/
def Since (start : Nat) (I : Machine → Prop) (m : Machine) : Prop :=
  start ≤ m.commands ∧ I m

variable {p s} {start : Nat} {I : Machine → Prop}

/-- If a command fails, then one has failed since. -/
theorem ensures_command_since {Q : α → Machine → Prop} {run : Script α}
    (ticks : ∀ m, I m → I m.tick)
    (ran : Ensures (Since start I) run Q fun _ _ => Faulted s start) :
    Ensures (Since start I) (command s run) Q fun _ _ => Faulted s start := by
  apply ensures_command s _ _ ran
  · exact fun m pre => ⟨Nat.le_succ_of_le pre.1, ticks m pre.2⟩
  · intro m message pre fault
    refine ⟨m.commands, pre.1, ?_⟩
    rw [fault]
    exact Option.some_ne_none message

/-- A message is printed and changes nothing else. -/
theorem ensures_log (silent : Silent I) (message : Str) :
    Ensures (Since start I) (log p s message)
      (fun _ => Since start fun m => I m ∧ Printed message m)
      fun _ _ => Faulted s start := by
  have dated : Ensures (Since start I) (getDate s) (fun _ => Since start I)
      fun _ _ => Faulted s start :=
    ensures_command_since (fun _ => silent.tick) fun _ pre => pre
  apply dated.bind
  intro date
  have shown : Ensures (Since start I) (writeHost s (date ++ "  ".toList ++ message))
      (fun _ => Since start fun m => I m ∧ Printed message m) fun _ _ => Faulted s start := by
    refine ensures_command_since (fun _ => silent.tick) ?_
    intro m pre
    refine ⟨pre.1, silent m _ _ _ pre.2, date, ?_⟩
    exact List.mem_append_right _ List.mem_cons_self
  apply shown.bind
  intro _
  split_ifs with logged
  · refine ensures_command_since (fun _ both => ⟨silent.tick both.1, both.2⟩) ?_
    exact fun m pre => ⟨pre.1, silent m _ _ _ pre.2.1, pre.2.2⟩
  · exact fun _ pre => pre

/-! ## The cleanup -/

variable {file : Option Bytes}

/-- The file is as it was. -/
def Intact (file : Option Bytes) (m : Machine) : Prop :=
  m.passwordFile = file ∧ m.remains = []

/-- The file is there and has nothing to show but its residue. -/
def Zeroed (s : Surroundings) (contents : Bytes) (m : Machine) : Prop :=
  m.passwordFile = some (residue s contents) ∧ m.remains = []

theorem silent_deleted : Silent (Deleted s file) :=
  fun _ _ _ _ deleted => ⟨deleted.gone, deleted.remains⟩

/-- A deleted file that .NET has overwritten is shredded. -/
theorem Deleted.shredded {m : Machine} (deleted : Deleted s file m) (same : s.samePath = true) :
    Shredded file m := by
  refine ⟨deleted.gone, ?_⟩
  rw [deleted.remains]
  cases file with
  | none => rfl
  | some contents =>
      change [residue s contents] = _
      rw [residue, same]
      rfl

theorem ensures_testPath :
    Ensures (Since start (Intact file)) (testPath s)
      (fun present m => present = file.isSome ∧ Since start (Intact file) m)
      fun _ _ => Faulted s start := by
  refine ensures_command_since (fun _ intact => intact) ?_
  intro m pre
  exact ⟨congrArg Option.isSome pre.2.1, pre⟩

theorem ensures_getLength (contents : Bytes) :
    Ensures (Since start (Intact (some contents))) (getLength p s)
      (fun len m => len = contents.length ∧ Since start (Intact (some contents)) m)
      fun _ _ => Faulted s start := by
  refine ensures_command_since (fun _ intact => intact) ?_
  intro m pre
  rw [exec_bind, exec_fileContents pre.2.1]
  exact ⟨rfl, pre⟩

theorem ensures_writeZeros (contents : Bytes) :
    Ensures (Since start (Intact (some contents))) (writeZeros s contents.length)
      (fun _ => Since start (Zeroed s contents)) fun _ _ => Faulted s start := by
  refine ensures_command_since (fun _ intact => intact) ?_
  intro m pre
  change Since start (Zeroed s contents) (if s.samePath then _ else _)
  split_ifs with same
  · refine ⟨pre.1, ?_, pre.2.2⟩
    rw [residue, if_pos same]
  · refine ⟨pre.1, ?_, pre.2.2⟩
    rw [residue, if_neg same]
    exact pre.2.1

theorem ensures_removeItem (contents : Bytes) :
    Ensures (Since start (Zeroed s contents)) (removeItem p s)
      (fun _ => Since start (Deleted s (some contents))) fun _ _ => Faulted s start := by
  refine ensures_command_since (fun _ zeroed => zeroed) ?_
  rintro m ⟨since, found, nothing⟩
  rw [exec_bind, exec_fileContents found]
  refine ⟨since, rfl, ?_⟩
  change m.remains ++ [residue s contents] = [residue s contents]
  rw [nothing, List.nil_append]

/-- An empty file has nothing to show. -/
theorem Intact.zeroed {contents : Bytes} {m : Machine} (intact : Intact (some contents) m)
    (empty : ¬contents.length > 0) : Zeroed s contents m := by
  have contents_eq : contents = [] := List.eq_nil_of_length_eq_zero (by omega)
  refine ⟨?_, intact.2⟩
  rw [intact.1, contents_eq, residue]
  split_ifs <;> rfl

/-- The file is overwritten and deleted, unless a command fails. -/
theorem ensures_overwriteAndDelete (contents : Bytes) :
    Ensures (Since start (Intact (some contents))) (overwriteAndDelete p s)
      (fun _ => Since start (Deleted s (some contents))) fun _ _ => Faulted s start := by
  apply (ensures_getLength contents).bind
  intro len
  apply Ensures.fact
  rintro rfl
  have deleted : Ensures (Since start (Zeroed s contents))
      (removeItem p s >>= fun _ =>
        log p s ("Shredded password file: ".toList ++ p.passwordFile))
      (fun _ => Since start (Deleted s (some contents))) fun _ _ => Faulted s start := by
    apply (ensures_removeItem contents).bind
    intro _
    apply (ensures_log silent_deleted _).weaken
    · exact fun _ pre => pre
    · exact fun _ _ post => ⟨post.1, post.2.1⟩
    · exact fun _ _ post => post
  split_ifs with filled
  · apply (ensures_writeZeros contents).bind
    exact fun _ => deleted
  · exact deleted.weaken (fun m pre => ⟨pre.1, pre.2.zeroed filled⟩)
      (fun _ _ post => post) (fun _ _ post => post)

/-- How a cleanup can end: the file is deleted, or a command has failed, which is
printed. -/
def DeletedOrWarned (p : Parameters) (s : Surroundings) (file : Option Bytes) (start : Nat)
    (m : Machine) : Prop :=
  Deleted s file m ∨ Faulted s start ∧ ∃ message, Printed (warning p message) m

/-- A failure of the cleanup is printed, unless the printing fails as well. -/
theorem ensures_warning (message : Str) :
    Ensures (fun _ => Faulted s start) (log p s (warning p message))
      (fun _ => DeletedOrWarned p s file start) fun _ _ => Faulted s start := by
  intro m faulted
  have silent : Silent fun _ => True := fun _ _ _ _ _ => trivial
  have logged : Ensures (Since 0 fun _ => True) (log p s (warning p message))
      (fun _ => Since 0 fun m => True ∧ Printed (warning p message) m)
      fun _ _ => Faulted s 0 := ensures_log silent (warning p message)
  have warned : Ensures (fun _ => True) (log p s (warning p message))
      (fun _ => DeletedOrWarned p s file start) fun _ _ => Faulted s start := by
    apply logged.weaken
    · exact fun m _ => ⟨Nat.zero_le _, trivial⟩
    · exact fun _ m post => Or.inr ⟨faulted, message, post.2.2⟩
    · exact fun _ _ _ => faulted
  exact warned m trivial

/-- The cleanup deletes the file, unless a command fails. -/
theorem ensures_shred :
    Ensures (Since start (Intact file)) (shred p s) (fun _ => DeletedOrWarned p s file start)
      fun _ _ => Faulted s start := by
  apply ensures_testPath.bind
  intro present
  apply Ensures.fact
  rintro rfl
  cases file with
  | none => exact fun _ pre => Or.inl ⟨pre.2.1, pre.2.2⟩
  | some contents =>
      have body : Ensures (Since start (Intact (some contents))) (overwriteAndDelete p s)
          (fun _ => Since start (Deleted s (some contents))) fun _ _ => Faulted s start :=
        ensures_overwriteAndDelete contents
      exact Ensures.tryCatch
        (body.weaken (fun _ pre => pre) (fun _ _ post => Or.inl post.2) fun _ _ post => post)
        ensures_warning

/-- How the cleanup ends after the first part of a run. -/
theorem cleanup_cases (p : Parameters) (s : Surroundings) (file : Option Bytes) (vault : Vault) :
    ((exec (script p s) (.fresh file vault)).1 =
          (exec (tryCatch (provision p s) (fail p s)) (.fresh file vault)).1 ∧
        DeletedOrWarned p s file
          (exec (tryCatch (provision p s) (fail p s)) (.fresh file vault)).2.commands
          (exec (script p s) (.fresh file vault)).2) ∨
      Faulted s (exec (tryCatch (provision p s) (fail p s)) (.fresh file vault)).2.commands ∧
        ∃ message, (exec (script p s) (.fresh file vault)).1 = .error message := by
  have kept := (ended_body (p := p) (s := s) (.fresh file vault)).1.1
  have intact : Intact file (exec (tryCatch (provision p s) (fail p s)) (.fresh file vault)).2 := by
    exact ⟨kept.1, kept.2⟩
  rw [script, exec_tryFinally]
  generalize exec (tryCatch (provision p s) (fail p s)) (.fresh file vault) = body at intact ⊢
  have cleanup := ensures_shred (p := p) (s := s) body.2 ⟨Nat.le_refl _, intact⟩
  rcases ran : exec (shred p s) body.2 with ⟨result, after⟩
  rw [ran] at cleanup
  cases result with
  | ok _ => exact Or.inl ⟨rfl, cleanup⟩
  | error message => exact Or.inr ⟨cleanup, message, rfl⟩

/-- A cleanup without a failure deletes the file. -/
theorem deleted_of_calm {file : Option Bytes} {vault : Vault}
    (calm : ¬Faulted s
      (exec (tryCatch (provision p s) (fail p s)) (.fresh file vault)).2.commands) :
    (exec (script p s) (.fresh file vault)).1 =
        (exec (tryCatch (provision p s) (fail p s)) (.fresh file vault)).1 ∧
      Deleted s file (exec (script p s) (.fresh file vault)).2 := by
  rcases cleanup_cases p s file vault with ⟨result, deleted | ⟨faulted, _⟩⟩ | ⟨faulted, _⟩
  · exact ⟨result, deleted⟩
  · exact absurd faulted calm
  · exact absurd faulted calm

/-- Whichever commands fail: a run of the script that ends shreds the password file
or prints a warning, where .NET takes its path as PowerShell does.  If no command fails
from the start of the cleanup on, then the run ends as its first part does and the file
is deleted. -/
theorem script_shreds (p : Parameters) (s : Surroundings) (file : Option Bytes)
    (vault : Vault) :
    (s.samePath = true → ∀ code after, exec (script p s) (.fresh file vault) = (.ok code, after) →
      Shredded file after ∨ ∃ message, Printed (warning p message) after) ∧
      (¬Faulted s (exec (tryCatch (provision p s) (fail p s)) (.fresh file vault)).2.commands →
        (exec (script p s) (.fresh file vault)).1 =
            (exec (tryCatch (provision p s) (fail p s)) (.fresh file vault)).1 ∧
          Deleted s file (exec (script p s) (.fresh file vault)).2) := by
  constructor
  · intro same code after ran
    rcases cleanup_cases p s file vault with ⟨_, ended⟩ | ⟨_, message, failed⟩
    · rw [ran] at ended
      rcases ended with deleted | warned
      · exact Or.inl (deleted.shredded same)
      · exact Or.inr warned.2
    · rw [ran] at failed
      cases failed
  · exact deleted_of_calm

end KdbxCredentials.Provisioning
