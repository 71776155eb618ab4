import KdbxCredentials.Provisioning.Shredding

/-!
# Reading back what has been provisioned

With a `cmdkey` that behaves as documented and arguments that a command line hands
over as they are, a run of the provisioning script that exits with 0 has put the text
of the password file into the vault, without one trailing newline, and the C# library
reads it back from there.  No run changes another credential, and without a password
in the file no run changes the vault at all.
-/

namespace KdbxCredentials.Provisioning

open KdbxCredentials.Text
open KdbxCredentials.Effects
open KdbxCredentials.CSharp

/-! ## The vault as the library sees it -/

/-- A credential as `CredRead` presents it. -/
def Stored.credential (stored : Stored) : Credential where
  credentialBlobSize := UInt32.ofNat stored.blob.length
  credentialBlob := some stored.blob
  sized := by
    rintro memory ⟨⟩
    have fits := stored.fits
    have bound : maxBlobSize = 2560 := rfl
    rw [UInt32.toNat_ofNat']
    omega

def credRead (vault : Vault) (target : Str) : Except Int Credential :=
  match vault target with
  | none => .error WindowsSecretStore.errorNotFound
  | some stored => .ok stored.credential

theorem credRead_of_stored {vault : Vault} {key : Str} {stored : Stored}
    (found : vault key = some stored) : credRead vault key = .ok stored.credential := by
  rw [credRead, found]

/-- A stored password is read back. -/
theorem getMasterPassword_credRead {vault : Vault} {key pw : Str} {stored : Stored}
    (found : vault key = some stored) (encoded : stored.blob = utf16 (spell pw)) :
    WindowsSecretStore.getMasterPassword (credRead vault) key = .ok (spell pw) := by
  have blob_eq : stored.credential.blob = utf16 (spell pw) := encoded
  have fits := stored.fits
  rw [encoded] at fits
  have bound : maxBlobSize = 2560 := rfl
  rw [WindowsSecretStore.getMasterPassword_of_ok (credRead_of_stored found), blob_eq,
    if_pos (by omega), (paired_spell pw).wellFormed_utf16.decodeUtf16_eq, codeUnits_utf16]

/-! ## The cleanup and the vault -/

variable {p : Parameters} {s : Surroundings}

/-- The cleanup does not touch the vault. -/
theorem keeps_vault_shred (vault : Vault) : Keeps (fun m => m.vault = vault) (shred p s) := by
  have ticks : ∀ m : Machine, m.vault = vault → m.tick.vault = vault := fun _ same => same
  have logs : ∀ message, Keeps (fun m => m.vault = vault) (log p s message) :=
    keeps_log fun _ _ _ _ same => same
  have tests : Keeps (fun m => m.vault = vault) (testPath s) :=
    keeps_command ticks fun _ same => same
  have measures : Keeps (fun m => m.vault = vault) (getLength p s) :=
    keeps_command ticks (keeps_fileContents.bind fun _ => Keeps.pure _)
  have writes : ∀ length, Keeps (fun m => m.vault = vault) (writeZeros s length) := by
    refine fun length => keeps_command ticks ?_
    intro m same
    change Machine.vault (if s.samePath then _ else _) = vault
    split_ifs <;> exact same
  have removes : Keeps (fun m => m.vault = vault) (removeItem p s) :=
    keeps_command ticks (keeps_fileContents.bind fun _ _ same => same)
  have deletes : Keeps (fun m => m.vault = vault)
      (removeItem p s >>= fun _ =>
        log p s ("Shredded password file: ".toList ++ p.passwordFile)) :=
    removes.bind fun _ => logs _
  have overwrites : Keeps (fun m => m.vault = vault) (overwriteAndDelete p s) := by
    apply measures.bind
    intro len
    split_ifs
    · exact (writes len).bind fun _ => deletes
    · exact deletes
  apply tests.bind
  intro present
  split_ifs
  · exact overwrites.tryCatch fun message => logs _
  · exact Keeps.pure _

/-- The result and the vault of a run are decided by its first part and by whether
its cleanup ends. -/
theorem exec_script (m : Machine) :
    (exec (script p s) m).2.vault = (exec (tryCatch (provision p s) (fail p s)) m).2.vault ∧
      ((exec (script p s) m).1 = (exec (tryCatch (provision p s) (fail p s)) m).1 ∨
        ∃ message, (exec (script p s) m).1 = .error message) := by
  rw [script, exec_tryFinally]
  generalize exec (tryCatch (provision p s) (fail p s)) m = body
  have vault_eq := (keeps_vault_shred (p := p) (s := s) body.2.vault).exec rfl
  rcases ran : exec (shred p s) body.2 with ⟨result, after⟩
  rw [ran] at vault_eq
  cases result with
  | ok _ => exact ⟨vault_eq, Or.inl rfl⟩
  | error message => exact ⟨vault_eq, Or.inr ⟨message, rfl⟩⟩

/-! ## Runs -/

theorem eq_ok_of_exitCode_eq_zero {result : Except Str Int} (zero : exitCode result = 0) :
    result = .ok 0 := by
  cases result with
  | ok code => exact congrArg Except.ok zero
  | error message => cases zero

/-- What the script hands to `cmdkey` gets there as it is. -/
structure LiteralArguments (p : Parameters) (s : Surroundings) (file : Option Bytes) : Prop where
  key : Literal p.key
  account : Literal p.account
  password : ∀ contents, file = some contents → stripNewline (s.decode contents) ≠ [] →
    Literal (stripNewline (s.decode contents))

variable {file : Option Bytes} {vault : Vault}

/-- The password that is found is literal. -/
theorem LiteralArguments.found (literal : LiteralArguments p s file) {pw : Str}
    (found : Found s (.fresh file vault) pw) : Literal pw := by
  obtain ⟨contents, present, rfl, nonempty⟩ := found
  exact literal.password contents present nonempty

/-- When `cmdkey` has succeeded, it has stored the password of the file. -/
theorem stores_of_called (documented : CmdkeyDocumented s) (literal : LiteralArguments p s file)
    {m : Machine} (called : Called p s (.fresh file vault) 0 m) :
    ∃ pw, Found s (.fresh file vault) pw ∧ Stores s p.key p.account pw vault m.vault := by
  obtain ⟨n, pw, found, answer⟩ := called
  have stores := documented.stores n vault p.key p.account pw literal.key literal.account
    (literal.found found)
  change s.cmdkey n vault p.key p.account pw = _ at answer
  rw [answer] at stores
  exact ⟨pw, found, stores rfl⟩

/-- A run that exits with 0 has stored the password of the file. -/
theorem stores_of_exitCode_eq_zero (documented : CmdkeyDocumented s)
    (literal : LiteralArguments p s file)
    (succeeded : exitCode (exec (script p s) (.fresh file vault)).1 = 0) :
    ∃ pw, Found s (.fresh file vault) pw ∧
      Stores s p.key p.account pw vault (exec (script p s) (.fresh file vault)).2.vault := by
  have called := (ended_body (p := p) (s := s) (.fresh file vault)).2
  obtain ⟨vault_eq, result⟩ := exec_script (p := p) (s := s) (.fresh file vault)
  rw [vault_eq]
  rcases result with result | ⟨message, result⟩
  · rw [result] at succeeded
    exact stores_of_called documented literal (called (eq_ok_of_exitCode_eq_zero succeeded))
  · rw [result] at succeeded
    cases succeeded

/-- The library reads back what is stored. -/
theorem Stores.returned {pw : Str} {before after : Vault}
    (stores : Stores s p.key p.account pw before after) :
    WindowsSecretStore.getMasterPassword (credRead after) p.key = .ok (spell pw) := by
  obtain ⟨stored, there, _, encoded⟩ := stores.stored
  exact getMasterPassword_credRead there encoded

/-- Whichever commands fail: a run that exits with 0 has provisioned the password of
the file, which the library reads back; and every run leaves the vault as it was
but for that password. -/
theorem script_provisions (documented : CmdkeyDocumented s) (literal : LiteralArguments p s file)
    (vault : Vault) :
    (exitCode (exec (script p s) (.fresh file vault)).1 = 0 →
        ∃ pw, Found s (.fresh file vault) pw ∧
          WindowsSecretStore.getMasterPassword
              (credRead (exec (script p s) (.fresh file vault)).2.vault) p.key =
            .ok (spell pw)) ∧
      ((exec (script p s) (.fresh file vault)).2.vault = vault ∨
        ∃ pw, Found s (.fresh file vault) pw ∧
          Stores s p.key p.account pw vault (exec (script p s) (.fresh file vault)).2.vault) := by
  constructor
  · intro succeeded
    obtain ⟨pw, found, stores⟩ := stores_of_exitCode_eq_zero documented literal succeeded
    exact ⟨pw, found, stores.returned⟩
  · rw [(exec_script (.fresh file vault)).1]
    rcases (ended_body (p := p) (s := s) (.fresh file vault)).1.2 with same | ⟨code, called⟩
    · exact Or.inl same
    · by_cases succeeded : code = 0
      · rw [succeeded] at called
        exact Or.inr (stores_of_called documented literal called)
      · left
        obtain ⟨n, pw, _, answer⟩ := called
        have kept := documented.fails n vault p.key p.account pw
        change s.cmdkey n vault p.key p.account pw = _ at answer
        rw [answer] at kept
        exact kept succeeded

/-! ## The text of the file -/

/-- A file with a password, as an editor may write it: as it is, or with one newline
at its end. -/
inductive FileText (pw : Str) : Str → Prop
  | plain : pw.getLast? ≠ some '\n' → FileText pw pw
  | lf : pw.getLast? ≠ some '\r' → FileText pw (pw ++ ['\n'])
  | crlf : FileText pw (pw ++ ['\r', '\n'])

theorem stripNewline_of_getLast? {pw : Str} (noNewline : pw.getLast? ≠ some '\n') :
    stripNewline pw = pw := by
  rw [← List.head?_reverse] at noNewline
  rw [stripNewline]
  split
  · next reversed =>
      rw [reversed] at noNewline
      exact absurd rfl noNewline
  · next reversed =>
      rw [reversed] at noNewline
      exact absurd rfl noNewline
  · rfl

theorem stripNewline_append_lf {pw : Str} (noReturn : pw.getLast? ≠ some '\r') :
    stripNewline (pw ++ ['\n']) = pw := by
  have reversed : (pw ++ ['\n']).reverse = '\n' :: pw.reverse := by simp
  rw [← List.head?_reverse] at noReturn
  rw [stripNewline, reversed]
  split
  · next same =>
      rw [(List.cons.inj same).2] at noReturn
      exact absurd rfl noReturn
  · next same => rw [← (List.cons.inj same).2, List.reverse_reverse]
  · next other => exact absurd rfl (other _)

theorem stripNewline_append_crlf (pw : Str) : stripNewline (pw ++ ['\r', '\n']) = pw := by
  have reversed : (pw ++ ['\r', '\n']).reverse = '\n' :: '\r' :: pw.reverse := by simp
  rw [stripNewline, reversed]
  exact List.reverse_reverse pw

/-- The newline that an editor may add is all that is removed. -/
theorem stripNewline_eq_iff (text pw : Str) : stripNewline text = pw ↔ FileText pw text := by
  constructor
  · intro stripped
    have text_eq : text = text.reverse.reverse := (List.reverse_reverse text).symm
    rw [stripNewline] at stripped
    split at stripped
    · next rest reversed =>
        rw [text_eq, reversed, ← stripped, List.reverse_cons, List.reverse_cons,
          List.append_assoc]
        exact FileText.crlf
    · next rest noReturn reversed =>
        rw [text_eq, reversed, ← stripped, List.reverse_cons]
        apply FileText.lf
        rw [← List.head?_reverse, List.reverse_reverse]
        intro head
        obtain ⟨rest', rest_eq⟩ := List.head?_eq_some_iff.mp head
        exact noReturn rest' rest_eq
    · next noReturn noNewline =>
        rw [← stripped]
        apply FileText.plain
        rw [← List.head?_reverse]
        intro head
        obtain ⟨rest, reversed⟩ := List.head?_eq_some_iff.mp head
        exact noNewline rest reversed
  · rintro (noNewline | noReturn | _)
    · exact stripNewline_of_getLast? noNewline
    · exact stripNewline_append_lf noReturn
    · exact stripNewline_append_crlf pw

/-! ## Undisturbed runs -/

/-- Nothing fails: no command throws, .NET takes the path as PowerShell does, and
`cmdkey` accepts the password and lists a key that is there. -/
structure Undisturbed (p : Parameters) (s : Surroundings) (pw : Str) : Prop where
  noFault : ∀ n, s.fault n = none
  samePath : s.samePath = true
  accepted : ∀ n vault, (s.cmdkey n vault p.key p.account pw).1 = 0
  listed : ∀ vault stored, vault p.key = some stored →
    mentions s (s.listing vault p.key) p.key = true

variable {α : Type} {pw : Str}

theorem ensures_undisturbed {P : Machine → Prop} {Q : α → Machine → Prop} {run : Script α}
    (undisturbed : Undisturbed p s pw) (ticks : ∀ m, P m → P m.tick)
    (ran : Ensures P run Q fun _ _ => False) :
    Ensures P (command s run) Q fun _ _ => False := by
  apply ensures_command s ticks _ ran
  intro m message _ fault
  rw [undisturbed.noFault] at fault
  cases fault

theorem undisturbed_log (undisturbed : Undisturbed p s pw) {I : Machine → Prop}
    (silent : Silent I) (message : Str) :
    Ensures I (log p s message) (fun _ => I) fun _ _ => False := by
  have ticks : ∀ m, I m → I m.tick := fun _ => silent.tick
  have dated : Ensures I (getDate s) (fun _ => I) fun _ _ => False :=
    ensures_undisturbed undisturbed ticks fun _ holds => holds
  apply dated.bind
  intro date
  have shown : Ensures I (writeHost s (date ++ "  ".toList ++ message)) (fun _ => I)
      fun _ _ => False :=
    ensures_undisturbed undisturbed ticks fun m holds => silent m _ _ _ holds
  apply shown.bind
  intro _
  split_ifs
  · exact ensures_undisturbed undisturbed ticks fun m holds => silent m _ _ _ holds
  · exact fun _ holds => holds

/-- The file is there. -/
def Present (contents : Bytes) (m : Machine) : Prop :=
  m.passwordFile = some contents

theorem silent_present (contents : Bytes) : Silent (Present contents) :=
  fun _ _ _ _ present => present

/-- The credential is there. -/
def Provisioned (p : Parameters) (m : Machine) : Prop :=
  ∃ stored, m.vault p.key = some stored

theorem silent_provisioned : Silent (Provisioned p) :=
  fun _ _ _ _ provisioned => provisioned

/-- Undisturbed, `cmdkey` succeeds, and its list shows the key. -/
theorem undisturbed_cmdkeyGeneric (documented : CmdkeyDocumented s) (key : Literal p.key)
    (account : Literal p.account) (literal : Literal pw) (undisturbed : Undisturbed p s pw)
    {P : Machine → Prop} (ticks : ∀ m, P m → P m.tick) :
    Ensures P (cmdkeyGeneric p s pw) (fun code m => code = 0 ∧ Provisioned p m)
      fun _ _ => False := by
  refine ensures_undisturbed undisturbed ticks ?_
  intro m _
  rw [exec_bind_of_ok (exec_get m)]
  have accepted := undisturbed.accepted m.commands m.vault
  obtain ⟨stored, there, _⟩ := (documented.stores m.commands m.vault p.key p.account pw key
    account literal accepted).stored
  exact ⟨accepted, stored, there⟩

/-- Undisturbed, the `try` block succeeds. -/
theorem undisturbed_provision (documented : CmdkeyDocumented s) (key : Literal p.key)
    (account : Literal p.account) (literal : Literal pw) (undisturbed : Undisturbed p s pw)
    {contents : Bytes} (text : stripNewline (s.decode contents) = pw) :
    Ensures (Present contents) (provision p s) (fun code _ => code = 0) fun _ _ => False := by
  have silent := silent_present contents
  have ticks : ∀ m, Present contents m → Present contents m.tick := fun _ => silent.tick
  apply (undisturbed_log undisturbed silent _).bind
  intro _
  have tested : Ensures (Present contents) (testPath s)
      (fun present m => present = true ∧ Present contents m) fun _ _ => False :=
    ensures_undisturbed undisturbed ticks fun m holds =>
      ⟨congrArg Option.isSome holds, holds⟩
  apply tested.bind
  intro present
  apply Ensures.fact
  rintro rfl
  refine Ensures.throwIf (fun absent => absurd absent (by decide)) ?_
  intro _
  have got : Ensures (Present contents) (getContent p s)
      (fun found m => found = s.decode contents ∧ Present contents m) fun _ _ => False := by
    refine ensures_undisturbed undisturbed ticks ?_
    intro m holds
    rw [exec_bind_of_ok (exec_fileContents holds)]
    exact ⟨rfl, holds⟩
  apply got.bind
  intro found
  apply Ensures.fact
  rintro rfl
  rw [text]
  refine Ensures.throwIf (fun empty => absurd empty literal.nonempty) ?_
  intro _
  apply (undisturbed_cmdkeyGeneric documented key account literal undisturbed ticks).bind
  intro code
  apply Ensures.fact
  rintro rfl
  refine Ensures.throwIf (fun failed => absurd rfl failed) ?_
  intro _
  have listed : Ensures (Provisioned p) (cmdkeyList p s)
      (fun lines m => mentions s lines p.key = true ∧ Provisioned p m) fun _ _ => False := by
    refine ensures_undisturbed undisturbed (fun _ => silent_provisioned.tick) ?_
    rintro m ⟨stored, there⟩
    exact ⟨undisturbed.listed m.vault stored there, stored, there⟩
  apply listed.bind
  intro lines
  apply Ensures.fact
  intro mentioned
  refine Ensures.throwIf (fun unlisted => absurd unlisted (by simp [mentioned])) ?_
  intro _
  apply (undisturbed_log undisturbed silent_provisioned _).bind
  exact fun _ _ _ => rfl

/-- Undisturbed, the script provisions the password of the file, with or without a
newline at its end, so that the library reads it back, and shreds the file. -/
theorem undisturbed_script (documented : CmdkeyDocumented s) (key : Literal p.key)
    (account : Literal p.account) (literal : Literal pw) (undisturbed : Undisturbed p s pw)
    {contents : Bytes} (text : FileText pw (s.decode contents)) (vault : Vault) :
    exitCode (exec (script p s) (.fresh (some contents) vault)).1 = 0 ∧
      WindowsSecretStore.getMasterPassword
          (credRead (exec (script p s) (.fresh (some contents) vault)).2.vault) p.key =
        .ok (spell pw) ∧
      Shredded (some contents) (exec (script p s) (.fresh (some contents) vault)).2 := by
  have stripped := (stripNewline_eq_iff _ _).mpr text
  have calm : ∀ start, ¬Faulted s start := by
    rintro start ⟨n, _, fault⟩
    exact fault (undisturbed.noFault n)
  obtain ⟨result, deleted⟩ :
      (exec (script p s) (.fresh (some contents) vault)).1 =
          (exec (tryCatch (provision p s) (fail p s)) (.fresh (some contents) vault)).1 ∧
        Deleted s (some contents) (exec (script p s) (.fresh (some contents) vault)).2 :=
    deleted_of_calm (calm _)
  have zero : (exec (script p s) (.fresh (some contents) vault)).1 = .ok 0 := by
    have provisioned :=
      undisturbed_provision documented key account literal undisturbed stripped
    have present : Present contents (.fresh (some contents) vault) := rfl
    rw [result, exec_tryCatch]
    rcases ran : exec (provision p s) (.fresh (some contents) vault) with ⟨message | code, after⟩
    · exact (provisioned.of_error present ran).elim
    · rw [provisioned.of_ok present ran]
  have exit : exitCode (exec (script p s) (.fresh (some contents) vault)).1 = 0 := by
    rw [zero]
    rfl
  have arguments : LiteralArguments p s (some contents) := by
    refine ⟨key, account, ?_⟩
    rintro _ ⟨⟩ _
    rw [stripped]
    exact literal
  obtain ⟨pw', ⟨contents', same, rfl, _⟩, stores⟩ :=
    stores_of_exitCode_eq_zero documented arguments exit
  cases same
  rw [stripped] at stores
  exact ⟨exit, stores.returned, deleted.shredded undisturbed.samePath⟩

/-! ## A default run -/

/-- The parameters of a default run are literal. -/
theorem literal_default : Literal defaultParameters.key ∧ Literal defaultParameters.account :=
  ⟨⟨by decide, by decide, by decide, by decide⟩, by decide, by decide, by decide, by decide⟩

/-- A password that fits is provisioned in quiet surroundings. -/
theorem undisturbed_quiet (fits : (utf16 (spell pw)).length ≤ maxBlobSize) :
    Undisturbed defaultParameters quietSurroundings pw where
  noFault _ := rfl
  samePath := rfl
  accepted _ vault := by
    change (storeFitting vault defaultParameters.key defaultParameters.account pw).1 = 0
    rw [storeFitting, dif_pos fits]
  listed := by
    have shown : mentions quietSurroundings
        ["Currently stored credentials:".toList, "    Target: ".toList ++ defaultParameters.key]
        defaultParameters.key = true := by decide
    exact fun _ _ _ => shown

/-- What a default run hands to `cmdkey` is literal. -/
theorem literalArguments_default :
    LiteralArguments defaultParameters quietSurroundings (some (utf8 "p@ss".toList)) := by
  have decoded : stripNewline (quietSurroundings.decode (utf8 "p@ss".toList)) = "p@ss".toList := by
    decide
  refine ⟨literal_default.1, literal_default.2, ?_⟩
  rintro _ ⟨⟩ _
  rw [decoded]
  exact ⟨by decide, by decide, by decide, by decide⟩

theorem script_provisions_default :
    (exitCode (exec (script defaultParameters quietSurroundings)
          (.fresh (some (utf8 "p@ss".toList)) fun _ => none)).1 = 0 →
        ∃ pw, Found quietSurroundings (.fresh (some (utf8 "p@ss".toList)) fun _ => none) pw ∧
          WindowsSecretStore.getMasterPassword
              (credRead (exec (script defaultParameters quietSurroundings)
                (.fresh (some (utf8 "p@ss".toList)) fun _ => none)).2.vault)
              defaultParameters.key =
            .ok (spell pw)) ∧
      ((exec (script defaultParameters quietSurroundings)
            (.fresh (some (utf8 "p@ss".toList)) fun _ => none)).2.vault = (fun _ => none) ∨
        ∃ pw, Found quietSurroundings (.fresh (some (utf8 "p@ss".toList)) fun _ => none) pw ∧
          Stores quietSurroundings defaultParameters.key defaultParameters.account pw
            (fun _ => none)
            (exec (script defaultParameters quietSurroundings)
              (.fresh (some (utf8 "p@ss".toList)) fun _ => none)).2.vault) := by
  exact script_provisions cmdkeyDocumented_quiet literalArguments_default fun _ => none

theorem undisturbed_script_default :
    exitCode (exec (script defaultParameters quietSurroundings)
        (.fresh (some (utf8 "p@ss\r\n".toList)) fun _ => none)).1 = 0 ∧
      WindowsSecretStore.getMasterPassword
          (credRead (exec (script defaultParameters quietSurroundings)
            (.fresh (some (utf8 "p@ss\r\n".toList)) fun _ => none)).2.vault)
          defaultParameters.key =
        .ok (spell "p@ss".toList) ∧
      Shredded (some (utf8 "p@ss\r\n".toList)) (exec (script defaultParameters quietSurroundings)
        (.fresh (some (utf8 "p@ss\r\n".toList)) fun _ => none)).2 := by
  have decoded : quietSurroundings.decode (utf8 "p@ss\r\n".toList) =
      "p@ss".toList ++ ['\r', '\n'] := by decide
  have text : FileText "p@ss".toList (quietSurroundings.decode (utf8 "p@ss\r\n".toList)) := by
    rw [decoded]
    exact FileText.crlf
  exact undisturbed_script cmdkeyDocumented_quiet literal_default.1 literal_default.2
    ⟨by decide, by decide, by decide, by decide⟩ (undisturbed_quiet (by decide)) text fun _ => none

end KdbxCredentials.Provisioning
