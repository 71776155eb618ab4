import KdbxCredentials.Effects.Triple
import KdbxCredentials.Provisioning.Script

/-!
# The first part of the provisioning script

Before the cleanup the script leaves the password file alone, and only `cmdkey`
changes the vault, when it is given the contents of the file without one trailing
newline.  The script reports success only once `cmdkey` has.
-/

namespace KdbxCredentials.Provisioning

open KdbxCredentials.Text
open KdbxCredentials.Effects

variable (p : Parameters) (s : Surroundings) {α : Type}

/-! ## Commands and messages -/

theorem exec_command (run : Script α) (m : Machine) :
    exec (command s run) m =
      match s.fault m.commands with
      | some message => (.error message, m.tick)
      | none => exec run m.tick := by
  change exec (match s.fault m.commands with
    | some message => throw message
    | none => run) m.tick = _
  cases s.fault m.commands <;> rfl

/-- A command keeps what its failure keeps and what it does when it runs. -/
theorem ensures_command {P : Machine → Prop} {Q : α → Machine → Prop} {R : Str → Machine → Prop}
    {run : Script α} (ticks : ∀ m, P m → P m.tick)
    (failed : ∀ m message, P m → s.fault m.commands = some message → R message m.tick)
    (ran : Ensures P run Q R) : Ensures P (command s run) Q R := by
  intro m pre
  rw [exec_command]
  cases fault : s.fault m.commands with
  | some message => exact failed m message pre fault
  | none => exact ran m.tick (ticks m pre)

/-- What does not depend on the count of commands nor on what has been printed. -/
def Silent (I : Machine → Prop) : Prop :=
  ∀ m console log commands, I m → I { m with console := console, log := log, commands := commands }

theorem Silent.tick {I : Machine → Prop} (silent : Silent I) {m : Machine} (holds : I m) :
    I m.tick :=
  silent m m.console m.log _ holds

variable {p s} {I : Machine → Prop}

theorem keeps_command {run : Script α} (ticks : ∀ m, I m → I m.tick) (ran : Keeps I run) :
    Keeps I (command s run) :=
  ensures_command s ticks (fun m _ holds _ => ticks m holds) ran

theorem keeps_log (silent : Silent I) (message : Str) : Keeps I (log p s message) := by
  have ticks : ∀ m, I m → I m.tick := fun _ => silent.tick
  apply Keeps.bind (keeps_command ticks fun _ holds => holds)
  intro date
  apply Keeps.bind (keeps_command ticks fun m holds => silent m _ _ _ holds)
  intro _
  split_ifs
  · exact keeps_command ticks fun m holds => silent m _ _ _ holds
  · exact Keeps.pure _

theorem exec_fileContents {contents : Bytes} {m : Machine}
    (found : m.passwordFile = some contents) :
    exec (fileContents p) m = (.ok contents, m) := by
  rw [fileContents, exec_bind_of_ok (exec_get m), found]
  rfl

theorem exec_fileContents_missing {m : Machine} (missing : m.passwordFile = none) :
    exec (fileContents p) m = (.error (cannotFindPath p), m) := by
  rw [fileContents, exec_bind_of_ok (exec_get m), missing]
  rfl

/-- Looking at the file changes nothing. -/
theorem keeps_fileContents : Keeps I (fileContents p) := by
  intro m holds
  cases found : m.passwordFile with
  | some contents =>
      rw [exec_fileContents found]
      exact holds
  | none =>
      rw [exec_fileContents_missing found]
      exact holds

/-! ## The file and the vault -/

variable {before : Machine}

/-- The file and what has been deleted are as they were. -/
def Kept (before m : Machine) : Prop :=
  m.passwordFile = before.passwordFile ∧ m.remains = before.remains

/-- Nothing has happened yet. -/
def Untouched (before m : Machine) : Prop :=
  Kept before m ∧ m.vault = before.vault

/-- The password that is found in the file. -/
def Found (s : Surroundings) (before : Machine) (pw : Str) : Prop :=
  ∃ contents, before.passwordFile = some contents ∧ pw = stripNewline (s.decode contents) ∧
    pw ≠ []

/-- `cmdkey` has been given the password of the file, and has ended with this code and
left this vault. -/
def Called (p : Parameters) (s : Surroundings) (before : Machine) (code : Int) (m : Machine) :
    Prop :=
  ∃ n pw, Found s before pw ∧ s.cmdkey n before.vault p.key p.account pw = (code, m.vault)

/-- The states in which the first part can end. -/
def Ended (p : Parameters) (s : Surroundings) (before m : Machine) : Prop :=
  Kept before m ∧ (m.vault = before.vault ∨ ∃ code, Called p s before code m)

theorem silent_untouched : Silent (Untouched before) :=
  fun _ _ _ _ untouched => untouched

theorem silent_called (code : Int) : Silent fun m => Kept before m ∧ Called p s before code m :=
  fun _ _ _ _ called => called

theorem silent_ended : Silent (Ended p s before) :=
  fun _ _ _ _ ended => ended

theorem Untouched.ended {m : Machine} (untouched : Untouched before m) : Ended p s before m :=
  ⟨untouched.1, Or.inl untouched.2⟩

/-- An action that touches nothing can be the last one. -/
theorem ends_of_keeps {x : Script α} (keeps : Keeps (Untouched before) x) :
    Ensures (Untouched before) x (fun _ => Untouched before) fun _ => Ended p s before :=
  keeps.weaken (fun _ pre => pre) (fun _ _ post => post) fun _ _ post => post.ended

/-! ## The `try` block -/

theorem ensures_getContent :
    Ensures (Untouched before) (getContent p s)
      (fun text m => (∃ contents, before.passwordFile = some contents ∧ text = s.decode contents) ∧
        Untouched before m)
      fun _ => Ended p s before := by
  apply ensures_command s (fun _ pre => pre) fun _ _ pre _ => pre.ended
  intro m pre
  cases found : m.passwordFile with
  | none =>
      rw [exec_bind_of_error (exec_fileContents_missing found)]
      exact pre.ended
  | some contents =>
      rw [exec_bind_of_ok (exec_fileContents found)]
      exact ⟨⟨contents, pre.1.1.symm.trans found, rfl⟩, pre⟩

/-- The vault is what `cmdkey` leaves. -/
theorem ensures_cmdkeyGeneric {pw : Str} (found : Found s before pw) :
    Ensures (Untouched before) (cmdkeyGeneric p s pw)
      (fun code m => Kept before m ∧ Called p s before code m)
      fun _ => Ended p s before := by
  apply ensures_command s (fun _ pre => pre) fun _ _ pre _ => pre.ended
  intro m pre
  rw [exec_bind_of_ok (exec_get m)]
  refine ⟨pre.1, m.commands, pw, found, ?_⟩
  rw [← pre.2]

/-- What follows a successful `cmdkey`. -/
theorem ensures_confirmed :
    Ensures (fun m => Kept before m ∧ Called p s before 0 m)
      (do
        let lines ← cmdkeyList p s
        if !mentions s lines p.key then
          throw ("credential '".toList ++ p.key ++ "' not found after write".toList)
        log p s ("PASS: credential '".toList ++ p.key ++ "' written to the vault of ".toList ++
          p.user)
        return (0 : Int))
      (fun code m => code = 0 ∧ Kept before m ∧ Called p s before 0 m)
      fun _ => Ended p s before := by
  have listed : Keeps (fun m => Kept before m ∧ Called p s before 0 m) (cmdkeyList p s) :=
    keeps_command (fun _ pre => pre) fun _ pre => pre
  have ended : ∀ m, Kept before m ∧ Called p s before 0 m → Ended p s before m :=
    fun _ called => ⟨called.1, Or.inr ⟨0, called.2⟩⟩
  apply (listed.weaken (fun _ pre => pre) (fun _ _ post => post) fun _ => ended).bind
  intro lines
  refine Ensures.throwIf (fun _ m => ended m) ?_
  intro _
  have logged : ∀ message, Keeps (fun m => Kept before m ∧ Called p s before 0 m)
      (log p s message) := fun message => keeps_log (silent_called 0) message
  apply ((logged _).weaken (fun _ pre => pre) (fun _ _ post => post) fun _ => ended).bind
  exact fun _ m called => ⟨rfl, called⟩

/-- The `try` block ends with 0 only if `cmdkey` does. -/
theorem ensures_provision :
    Ensures (Untouched before) (provision p s)
      (fun code m => code = 0 ∧ Kept before m ∧ Called p s before 0 m)
      fun _ => Ended p s before := by
  apply (ends_of_keeps (keeps_log silent_untouched _)).bind
  intro _
  have tested : Keeps (Untouched before) (testPath s) :=
    keeps_command (fun _ pre => pre) fun _ pre => pre
  apply (ends_of_keeps tested).bind
  intro present
  apply Ensures.throwIf fun _ _ pre => pre.ended
  intro _
  apply ensures_getContent.bind
  intro text
  apply Ensures.fact
  rintro ⟨contents, file, rfl⟩
  apply Ensures.throwIf fun _ _ pre => pre.ended
  intro nonempty
  apply (ensures_cmdkeyGeneric ⟨contents, file, rfl, nonempty⟩).bind
  intro code
  apply Ensures.throwIf fun _ m called => ⟨called.1, Or.inr ⟨code, called.2⟩⟩
  intro succeeded
  rw [not_not.mp succeeded]
  exact ensures_confirmed

/-- The first part ends with 0 if `cmdkey` has stored the password, and otherwise with 1
or an error. -/
theorem ensures_body :
    Ensures (Untouched before) (tryCatch (provision p s) (fail p s))
      (fun code m => (code = 0 → Called p s before 0 m) ∧ Ended p s before m)
      fun _ => Ended p s before := by
  apply Ensures.tryCatch
  · apply ensures_provision.weaken
    · exact fun _ pre => pre
    · exact fun _ m post => ⟨fun _ => post.2.2, post.2.1, Or.inr ⟨0, post.2.2⟩⟩
    · exact fun _ _ post => post
  · intro message
    apply Ensures.bind (keeps_log silent_ended _)
    exact fun _ m ended => ⟨fun one => absurd one (by decide), ended⟩

/-- However the first part ends, the file is as it was and the vault is as it was or as
`cmdkey` has left it; `cmdkey` has succeeded if the first part ends with 0. -/
theorem ended_body (m : Machine) :
    Ended p s m (exec (tryCatch (provision p s) (fail p s)) m).2 ∧
      ((exec (tryCatch (provision p s) (fail p s)) m).1 = .ok 0 →
        Called p s m 0 (exec (tryCatch (provision p s) (fail p s)) m).2) := by
  have triple : Ensures (Untouched m) (tryCatch (provision p s) (fail p s))
      (fun code m' => (code = 0 → Called p s m 0 m') ∧ Ended p s m m')
      fun _ => Ended p s m := ensures_body
  have untouched : Untouched m m := ⟨⟨rfl, rfl⟩, rfl⟩
  rcases ran : exec (tryCatch (provision p s) (fail p s)) m with ⟨result, after⟩
  cases result with
  | ok code =>
      obtain ⟨called, ended⟩ := triple.of_ok untouched ran
      refine ⟨ended, ?_⟩
      rintro ⟨⟩
      exact called rfl
  | error message =>
      refine ⟨triple.of_error untouched ran, ?_⟩
      rintro ⟨⟩

end KdbxCredentials.Provisioning
