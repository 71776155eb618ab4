import KdbxCredentials.Effects.Relational
import KdbxCredentials.Provisioning.Storing

/-!
# What the provisioning script prints

Two runs of the provisioning script that start with different passwords print the
same lines, write the same log and exit with the same code, as long as `cmdkey`
answers both passwords alike, and neither or both are empty, as are their files.
-/

namespace KdbxCredentials.Provisioning

open KdbxCredentials.Text
open KdbxCredentials.Effects

variable {p : Parameters} {s : Surroundings} {α : Type}

/-- Vaults with the same accounts under the same targets. -/
def SameTargets (vault vault' : Vault) : Prop :=
  ∀ target, (vault target).map Stored.account = (vault' target).map Stored.account

/-- `cmdkey /list` shows no passwords. -/
def ListsNoPasswords (s : Surroundings) : Prop :=
  ∀ vault vault' target, SameTargets vault vault' →
    s.listing vault target = s.listing vault' target

/-- Machines that differ at most in the contents of the password file, in deleted
contents and in stored passwords. -/
structure Alike (m m' : Machine) : Prop where
  present : m.passwordFile.isSome = m'.passwordFile.isSome
  empty : ∀ contents contents', m.passwordFile = some contents → m'.passwordFile = some contents' →
    (contents.length > 0 ↔ contents'.length > 0)
  targets : SameTargets m.vault m'.vault
  console : m.console = m'.console
  log : m.log = m'.log
  commands : m.commands = m'.commands

/-- Passwords that the script treats alike: both are empty or neither is, and `cmdkey`
has one exit code for them and stores them for the same accounts under the same
names. -/
structure SameFate (p : Parameters) (s : Surroundings) (pw pw' : Str) : Prop where
  empty : pw = [] ↔ pw' = []
  sameCode : ∀ n vault vault', SameTargets vault vault' →
    (s.cmdkey n vault p.key p.account pw).1 = (s.cmdkey n vault' p.key p.account pw').1
  sameTargets : ∀ n vault vault', SameTargets vault vault' →
    SameTargets (s.cmdkey n vault p.key p.account pw).2 (s.cmdkey n vault' p.key p.account pw').2

/-- Machines whose password files hold passwords of the same fate. -/
def AlikeWithFile (p : Parameters) (s : Surroundings) (m m' : Machine) : Prop :=
  Alike m m' ∧ ∀ contents contents', m.passwordFile = some contents →
    m'.passwordFile = some contents' →
    SameFate p s (stripNewline (s.decode contents)) (stripNewline (s.decode contents'))

/-! ## Commands in step -/

/-- A relation that machines keep when both run a command or print a line. -/
structure Observed (P : Machine → Machine → Prop) : Prop where
  alike : ∀ {m m'}, P m m' → Alike m m'
  tick : ∀ {m m'}, P m m' → P m.tick m'.tick
  print : ∀ {m m'} line, P m m' →
    P { m with console := m.console ++ [line] } { m' with console := m'.console ++ [line] }
  write : ∀ {m m'} line, P m m' →
    P { m with log := m.log ++ [line] } { m' with log := m'.log ++ [line] }

theorem observed_alike : Observed Alike where
  alike same := same
  tick same :=
    ⟨same.present, same.empty, same.targets, same.console, same.log,
      congrArg (· + 1) same.commands⟩
  print line same :=
    ⟨same.present, same.empty, same.targets, congrArg (· ++ [line]) same.console, same.log,
      same.commands⟩
  write line same :=
    ⟨same.present, same.empty, same.targets, same.console, congrArg (· ++ [line]) same.log,
      same.commands⟩

theorem observed_alikeWithFile : Observed (AlikeWithFile p s) where
  alike same := same.1
  tick same := ⟨observed_alike.tick same.1, same.2⟩
  print line same := ⟨observed_alike.print line same.1, same.2⟩
  write line same := ⟨observed_alike.write line same.1, same.2⟩

variable {P : Machine → Machine → Prop} {V : α → α → Prop}

/-- Commands fail together. -/
theorem inStep_command (observed : Observed P) {run run' : Script α}
    (ran : InStep P run run' V P) : InStep P (command s run) (command s run') V P := by
  intro m m' related
  rw [exec_command, exec_command, ← (observed.alike related).commands]
  cases s.fault m.commands with
  | some message => exact ⟨.error message, observed.tick related⟩
  | none => exact ran m.tick m'.tick (observed.tick related)

theorem inStep_log (observed : Observed P) (message : Str) :
    InStep P (log p s message) (log p s message) Eq P := by
  have dated : InStep P (getDate s) (getDate s) Eq P := by
    apply inStep_command observed
    intro m m' related
    have count := (observed.alike related).commands
    exact ⟨.ok (congrArg s.date count), related⟩
  apply dated.bind
  rintro date _ rfl
  have shown : InStep P (writeHost s (date ++ "  ".toList ++ message))
      (writeHost s (date ++ "  ".toList ++ message)) Eq P :=
    inStep_command observed fun m m' related => ⟨.ok rfl, observed.print _ related⟩
  apply shown.bind
  intro _ _ _
  split_ifs
  · exact inStep_command observed fun m m' related => ⟨.ok rfl, observed.write _ related⟩
  · exact InStep.pure rfl

theorem inStep_testPath (observed : Observed P) : InStep P (testPath s) (testPath s) Eq P :=
  inStep_command observed fun _ _ related => ⟨.ok (observed.alike related).present, related⟩

/-- Both files are read, or neither is there. -/
theorem inStep_fileContents (observed : Observed P) :
    InStep P (fileContents p) (fileContents p)
      (fun contents contents' => ∃ m m', P m m' ∧ m.passwordFile = some contents ∧
        m'.passwordFile = some contents') P := by
  intro m m' related
  have present := (observed.alike related).present
  cases found : m.passwordFile with
  | none =>
      rw [found] at present
      have missing' : m'.passwordFile = none := by simpa using present.symm
      rw [exec_fileContents_missing found, exec_fileContents_missing missing']
      exact ⟨.error _, related⟩
  | some contents =>
      rw [found] at present
      obtain ⟨contents', found'⟩ := Option.isSome_iff_exists.mp present.symm
      rw [exec_fileContents found, exec_fileContents found']
      exact ⟨.ok ⟨m, m', related, found, found'⟩, related⟩

/-! ## The first part in step -/

theorem inStep_getContent :
    InStep (AlikeWithFile p s) (getContent p s) (getContent p s)
      (fun text text' => SameFate p s (stripNewline text) (stripNewline text'))
      (AlikeWithFile p s) := by
  apply inStep_command observed_alikeWithFile
  apply (inStep_fileContents observed_alikeWithFile).bind
  rintro contents contents' ⟨m, m', related, found, found'⟩
  exact InStep.pure (related.2 contents contents' found found')

theorem inStep_cmdkeyGeneric {pw pw' : Str} (fate : SameFate p s pw pw') :
    InStep (AlikeWithFile p s) (cmdkeyGeneric p s pw) (cmdkeyGeneric p s pw') Eq
      (AlikeWithFile p s) := by
  apply inStep_command observed_alikeWithFile
  intro m m' related
  rw [exec_bind_of_ok (exec_get m), exec_bind_of_ok (exec_get m'), ← related.1.commands]
  have targets := related.1.targets
  refine ⟨.ok (fate.sameCode m.commands m.vault m'.vault targets), ?_, related.2⟩
  exact ⟨related.1.present, related.1.empty, fate.sameTargets m.commands m.vault m'.vault targets,
    related.1.console, related.1.log, rfl⟩

theorem inStep_cmdkeyList (hides : ListsNoPasswords s) :
    InStep (AlikeWithFile p s) (cmdkeyList p s) (cmdkeyList p s) Eq (AlikeWithFile p s) :=
  inStep_command observed_alikeWithFile fun m m' related =>
    ⟨.ok (hides m.vault m'.vault p.key related.1.targets), related⟩

theorem inStep_provision (hides : ListsNoPasswords s) :
    InStep (AlikeWithFile p s) (provision p s) (provision p s) Eq (AlikeWithFile p s) := by
  apply (inStep_log observed_alikeWithFile _).bind
  intro _ _ _
  apply (inStep_testPath observed_alikeWithFile).bind
  rintro present _ rfl
  apply InStep.throwIf Iff.rfl
  intro _
  apply inStep_getContent.bind
  intro text text' fate
  apply InStep.throwIf fate.empty
  intro _
  apply (inStep_cmdkeyGeneric fate).bind
  rintro code _ rfl
  apply InStep.throwIf Iff.rfl
  intro _
  apply (inStep_cmdkeyList hides).bind
  rintro lines _ rfl
  apply InStep.throwIf Iff.rfl
  intro _
  apply (inStep_log observed_alikeWithFile _).bind
  intro _ _ _
  exact InStep.pure rfl

theorem inStep_fail (message : Str) :
    InStep (AlikeWithFile p s) (fail p s message) (fail p s message) Eq (AlikeWithFile p s) := by
  apply (inStep_log observed_alikeWithFile _).bind
  intro _ _ _
  exact InStep.pure rfl

/-! ## The cleanup in step -/

theorem inStep_getLength :
    InStep Alike (getLength p s) (getLength p s) (fun len len' => len > 0 ↔ len' > 0) Alike := by
  apply inStep_command observed_alike
  apply (inStep_fileContents observed_alike).bind
  rintro contents contents' ⟨m, m', related, found, found'⟩
  exact InStep.pure (related.empty contents contents' found found')

theorem inStep_writeZeros {len len' : Nat} (filled : len > 0) (filled' : len' > 0) :
    InStep Alike (writeZeros s len) (writeZeros s len') Eq Alike := by
  apply inStep_command observed_alike
  intro m m' related
  refine ⟨.ok rfl, ?_⟩
  change Alike (if s.samePath then _ else _) (if s.samePath then _ else _)
  split_ifs
  · refine ⟨rfl, ?_, related.targets, related.console, related.log, related.commands⟩
    rintro contents contents' ⟨⟩ ⟨⟩
    rw [List.length_replicate, List.length_replicate]
    exact iff_of_true filled filled'
  · exact ⟨related.present, related.empty, related.targets, related.console, related.log,
      related.commands⟩

theorem inStep_removeItem : InStep Alike (removeItem p s) (removeItem p s) Eq Alike := by
  apply inStep_command observed_alike
  apply (inStep_fileContents observed_alike).bind
  rintro contents contents' _ m m' related
  refine ⟨.ok rfl, rfl, ?_, related.targets, related.console, related.log, related.commands⟩
  rintro contents contents' ⟨⟩

theorem inStep_overwriteAndDelete :
    InStep Alike (overwriteAndDelete p s) (overwriteAndDelete p s) Eq Alike := by
  have deletes : InStep Alike
      (removeItem p s >>= fun _ =>
        log p s ("Shredded password file: ".toList ++ p.passwordFile))
      (removeItem p s >>= fun _ =>
        log p s ("Shredded password file: ".toList ++ p.passwordFile)) Eq Alike :=
    inStep_removeItem.bind fun _ _ _ => inStep_log observed_alike _
  apply inStep_getLength.bind
  intro len len' same
  by_cases filled : len > 0
  · rw [if_pos filled, if_pos (same.mp filled)]
    exact (inStep_writeZeros filled (same.mp filled)).bind fun _ _ _ => deletes
  · rw [if_neg filled, if_neg fun filled' => filled (same.mpr filled')]
    exact deletes

theorem inStep_shred : InStep Alike (shred p s) (shred p s) Eq Alike := by
  apply (inStep_testPath observed_alike).bind
  rintro present _ rfl
  split_ifs
  · exact inStep_overwriteAndDelete.tryCatch fun message => inStep_log observed_alike _
  · exact InStep.pure rfl

/-- Runs of the script on machines that are alike end alike. -/
theorem inStep_script (hides : ListsNoPasswords s) :
    InStep (AlikeWithFile p s) (script p s) (script p s) Eq Alike := by
  have body : InStep (AlikeWithFile p s) (tryCatch (provision p s) (fail p s))
      (tryCatch (provision p s) (fail p s)) Eq (AlikeWithFile p s) :=
    (inStep_provision hides).tryCatch inStep_fail
  exact body.tryFinally (inStep_shred.weaken fun _ _ related => related.1)

/-- What a run prints and logs and its exit code tell nothing of a password but how
`cmdkey` answers it, and whether it or its file is empty. -/
theorem script_reveals_nothing (hides : ListsNoPasswords s) {contents contents' : Bytes}
    (empty : contents = [] ↔ contents' = [])
    (fate : SameFate p s (stripNewline (s.decode contents)) (stripNewline (s.decode contents')))
    {vault vault' : Vault} (targets : SameTargets vault vault') :
    let run := exec (script p s) (.fresh (some contents) vault)
    let run' := exec (script p s) (.fresh (some contents') vault')
    exitCode run.1 = exitCode run'.1 ∧ run.2.console = run'.2.console ∧ run.2.log = run'.2.log := by
  intro run run'
  have related :
      AlikeWithFile p s (.fresh (some contents) vault) (.fresh (some contents') vault') := by
    refine ⟨⟨rfl, ?_, targets, rfl, rfl, rfl⟩, ?_⟩
    · rintro _ _ ⟨⟩ ⟨⟩
      rw [gt_iff_lt, gt_iff_lt, List.length_pos_iff, List.length_pos_iff]
      exact not_congr empty
    · rintro _ _ ⟨⟩ ⟨⟩
      exact fate
  obtain ⟨same, alike⟩ := inStep_script (p := p) hides _ _ related
  refine ⟨?_, alike.console, alike.log⟩
  change SameResult Eq run.1 run'.1 at same
  generalize run.1 = result at same ⊢
  generalize run'.1 = result' at same ⊢
  cases same with
  | ok code_eq => rw [code_eq]
  | error message => rfl

/-- Passwords that fit are stored alike. -/
theorem sameFate_of_fits {pw pw' : Str} (nonempty : pw ≠ []) (nonempty' : pw' ≠ [])
    (fits : (utf16 (spell pw)).length ≤ maxBlobSize)
    (fits' : (utf16 (spell pw')).length ≤ maxBlobSize) :
    SameFate p quietSurroundings pw pw' where
  empty := iff_of_false nonempty nonempty'
  sameCode _ vault vault' _ := by
    change (storeFitting vault p.key p.account pw).1 = (storeFitting vault' p.key p.account pw').1
    rw [storeFitting, storeFitting, dif_pos fits, dif_pos fits']
  sameTargets _ vault vault' same := by
    change SameTargets (storeFitting vault p.key p.account pw).2
      (storeFitting vault' p.key p.account pw').2
    rw [storeFitting, storeFitting, dif_pos fits, dif_pos fits']
    intro target
    dsimp only
    by_cases here : target = p.key
    · rw [here, Function.update_self, Function.update_self]
      rfl
    · rw [Function.update_of_ne here, Function.update_of_ne here]
      exact same target

/-- Two passwords are provisioned alike. -/
theorem script_reveals_nothing_default :
    let run := exec (script defaultParameters quietSurroundings)
      (.fresh (some (utf8 "one".toList)) fun _ => none)
    let run' := exec (script defaultParameters quietSurroundings)
      (.fresh (some (utf8 "another".toList)) fun _ => none)
    exitCode run.1 = exitCode run'.1 ∧ run.2.console = run'.2.console ∧ run.2.log = run'.2.log := by
  have hides : ListsNoPasswords quietSurroundings := fun _ _ _ _ => rfl
  have empty : utf8 "one".toList = [] ↔ utf8 "another".toList = [] := by decide
  have decoded : quietSurroundings.decode (utf8 "one".toList) = "one".toList := by decide
  have decoded' : quietSurroundings.decode (utf8 "another".toList) = "another".toList := by decide
  have fate : SameFate defaultParameters quietSurroundings
      (stripNewline (quietSurroundings.decode (utf8 "one".toList)))
      (stripNewline (quietSurroundings.decode (utf8 "another".toList))) := by
    rw [decoded, decoded']
    exact sameFate_of_fits (by decide) (by decide) (by decide) (by decide)
  exact script_reveals_nothing hides empty fate fun _ => rfl

end KdbxCredentials.Provisioning
