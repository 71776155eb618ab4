import KdbxCredentials.SecretStore.KeyCheck

/-!
# Where the Rust store reads from

The store takes its directory from the environment without a look at its value.
With a nonempty absolute directory every file it opens is a direct child of
that directory, so the working directory makes no difference.  With a variable
that is set but empty the key becomes a path relative to the working directory.
-/

namespace KdbxCredentials.SecretStore

open KdbxCredentials.Text
open KdbxCredentials.Posix
open KdbxCredentials.Rust

variable (env : Environment)

/-- Both variables are unset, empty or absolute paths. -/
structure UsualEnvironment : Prop where
  credentialsDir : ∀ {dir}, env.varOs credentialsDirEnv = some dir →
    dir = [] ∨ isAbsolute dir = true
  credFileDir : ∀ {dir}, env.varOs credFileDirEnv = some dir →
    dir = [] ∨ isAbsolute dir = true

/-- The nonempty configured directories and the default one. -/
def IsStore (dir : Bytes) : Prop :=
  dir = defaultCredDir ∨
    dir ≠ [] ∧ (env.varOs credentialsDirEnv = some dir ∨ env.varOs credFileDirEnv = some dir)

/-- The store takes its directory from a variable that is set but empty. -/
def ChoosesEmpty : Prop :=
  env.varOs credentialsDirEnv = some [] ∨
    env.varOs credentialsDirEnv = none ∧ env.varOs credFileDirEnv = some []

/-- An absolute path that leads to something below a directory by names alone. -/
def Below (dir path : Bytes) : Prop :=
  isAbsolute path = true ∧
    ∃ names : List Bytes, components path = components dir ++ names.map .normal

/-- Two worlds with the same contents below every store directory; their
working directories may differ. -/
def SameStores (w w' : World) : Prop :=
  ∀ dir, IsStore env dir → ∀ path, Below dir path → w.readFile path = w'.readFile path

/-- The result depends on the contents of the store directories alone, and every
file that is opened is a direct child of one. -/
structure IndependentOfCwd (key : Str) : Prop where
  sameResult : ∀ w w', SameStores env w w' →
    (getMasterPassword env key).run w.readFile = (getMasterPassword env key).run w'.readFile
  directChild : ∀ fs, ∀ path ∈ (getMasterPassword env key).opened fs,
    ∃ dir name, IsStore env dir ∧ components path = components dir ++ [.normal name]

variable {env} {key : Str}

/-- The directory that is read is empty, or it is a store directory. -/
theorem getMasterPassword_cases (usual : UsualEnvironment env) (key : Str) :
    (ChoosesEmpty env ∧ getMasterPassword env key = readFromDir [] key) ∨
      (¬ChoosesEmpty env ∧ ∃ dir, IsStore env dir ∧ isAbsolute dir = true ∧
        getMasterPassword env key = readFromDir dir key) := by
  rw [getMasterPassword, ChoosesEmpty]
  cases systemd : env.varOs credentialsDirEnv with
  | some dir =>
      by_cases empty : dir = []
      · exact Or.inl ⟨Or.inl (by rw [empty]), by rw [empty]⟩
      · right
        constructor
        · simp [empty]
        · have absolute := (usual.credentialsDir systemd).resolve_left empty
          exact ⟨dir, Or.inr ⟨empty, Or.inl systemd⟩, absolute, rfl⟩
  | none =>
      cases configured : env.varOs credFileDirEnv with
      | some dir =>
          by_cases empty : dir = []
          · exact Or.inl ⟨Or.inr ⟨rfl, by rw [empty]⟩, by rw [empty]; rfl⟩
          · right
            constructor
            · simp [empty]
            · have absolute := (usual.credFileDir configured).resolve_left empty
              exact ⟨dir, Or.inr ⟨empty, Or.inr configured⟩, absolute, rfl⟩
      | none =>
          right
          constructor
          · simp
          · exact ⟨defaultCredDir, Or.inl rfl, by decide, rfl⟩

/-- A rejected key makes the result independent of everything. -/
theorem independentOfCwd_of_rejected {dir : Bytes}
    (reads : getMasterPassword env key = readFromDir dir key)
    (rejected : isSafeCredentialId key = false) : IndependentOfCwd env key := by
  rw [readFromDir_of_rejected dir rejected] at reads
  constructor
  · intro w w' _
    rw [reads]
    rfl
  · intro fs path member
    rw [reads] at member
    cases member

/-- Reading from an absolute store directory is independent of the working
directory. -/
theorem independentOfCwd_of_absolute {dir : Bytes}
    (reads : getMasterPassword env key = readFromDir dir key) (store : IsStore env dir)
    (absolute : isAbsolute dir = true) (accepted : isSafeCredentialId key = true) :
    IndependentOfCwd env key := by
  obtain ⟨name, _, relative, joined⟩ := components_join_key dir accepted
  have opens : ∀ fs, ∀ path ∈ (getMasterPassword env key).opened fs,
      path = join dir (utf8 key) := by
    intro fs path member
    rw [reads, opened_readFromDir dir accepted] at member
    split_ifs at member
    · cases member
    · exact List.mem_singleton.mp member
  constructor
  · intro w w' same
    apply FileProgram.run_congr
    intro path member
    rw [opens w.readFile path member]
    apply same dir store
    exact ⟨isAbsolute_join absolute relative, [utf8 name], joined⟩
  · intro fs path member
    rw [opens fs path member]
    exact ⟨dir, utf8 name, store, joined⟩

/-! ## An empty directory -/

/-- A world in which one directory has a child of the given name and another one
has none; the process works in one or the other. -/
def forkedWorld (name cwd : Bytes) : World where
  root := .directory true
    [(utf8 "full".toList, .directory true [(name, .directory true [])]),
      (utf8 "bare".toList, .directory true [])]
  cwd := [cwd]

/-- A relative key is resolved from the working directory. -/
theorem resolve_key {name : Str} {rest : List Str} (named : NamePieces key name rest) {w : World}
    {loc : Location} (working : w.workingDirectory = some loc) :
    w.resolve (utf8 key) = walk loc (utf8 name :: rest.map utf8) := by
  obtain ⟨relative, nonempty, split⟩ := named.utf8_key
  have noNul : nul ∉ utf8 key := mt (nul_mem_utf8_iff key).mp named.noNul
  rw [World.resolve, if_pos ⟨nonempty, noNul⟩, World.start,
    if_neg (Bool.eq_false_iff.mp relative), working, split]
  rfl

/-- Reading a directory in place of the credential fails. -/
theorem readFile_forkedWorld_full {name : Str} {rest : List Str}
    (named : NamePieces key name rest) :
    (forkedWorld (utf8 name) (utf8 "full".toList)).readFile (utf8 key) = .error .eisdir := by
  have plain := (plainName_utf8_iff named.plain.noNul).mpr named.plain
  have working : (forkedWorld (utf8 name) (utf8 "full".toList)).workingDirectory =
      some ⟨.directory true [(utf8 name, .directory true [])],
        [(forkedWorld (utf8 name) (utf8 "full".toList)).root]⟩ := rfl
  rw [World.readFile, resolve_key named working, walk, List.foldlM_cons, step_plain rfl plain,
    List.lookup_cons_self]
  change (walk _ (rest.map utf8) >>= _) = _
  rw [walk_blank rfl named.blank_utf8]
  rfl

/-- Without an entry of that name nothing is read. -/
theorem readFile_forkedWorld_bare {name : Str} {rest : List Str}
    (named : NamePieces key name rest) :
    (forkedWorld (utf8 name) (utf8 "bare".toList)).readFile (utf8 key) = .error .enoent := by
  have plain := (plainName_utf8_iff named.plain.noNul).mpr named.plain
  have working : (forkedWorld (utf8 name) (utf8 "bare".toList)).workingDirectory =
      some ⟨.directory true [], [(forkedWorld (utf8 name) (utf8 "bare".toList)).root]⟩ := rfl
  rw [World.readFile, resolve_key named working, walk, List.foldlM_cons, step_plain rfl plain]
  rfl

/-- The answer to the one read decides the result. -/
theorem run_readFromDir_nil (accepted : isSafeCredentialId key = true)
    (fs : Bytes → Except Errno Bytes) {e : Errno} (failed : fs (utf8 key) = .error e) :
    (readFromDir [] key).run fs = .error (mapReadError key (errorKind e)) := by
  obtain ⟨_, _, relative, _⟩ := components_join_key [] accepted
  rw [readFromDir_of_accepted [] accepted, FileProgram.run_map, readToString,
    join_nil relative, if_neg (isSafeCredentialId_noNul accepted), FileProgram.run, failed]
  rfl

/-- With an empty directory an accepted key is read relative to the working
directory. -/
theorem not_independentOfCwd (reads : getMasterPassword env key = readFromDir [] key)
    (accepted : isSafeCredentialId key = true) : ¬IndependentOfCwd env key := by
  intro independent
  obtain ⟨name, rest, named⟩ := (isSafeCredentialId_iff key).mp accepted
  have same : SameStores env (forkedWorld (utf8 name) (utf8 "full".toList))
      (forkedWorld (utf8 name) (utf8 "bare".toList)) := by
    intro dir _ path below
    exact World.readFile_of_isAbsolute rfl below.1
  have results := independent.sameResult _ _ same
  rw [reads, run_readFromDir_nil accepted _ (readFile_forkedWorld_full named),
    run_readFromDir_nil accepted _ (readFile_forkedWorld_bare named)] at results
  cases results

/-- The store is independent of the working directory unless it takes an empty
directory and the key is accepted. -/
theorem independentOfCwd_iff (usual : UsualEnvironment env) (key : Str) :
    IndependentOfCwd env key ↔ ¬(ChoosesEmpty env ∧ isSafeCredentialId key = true) := by
  rcases getMasterPassword_cases usual key with
    ⟨empty, reads⟩ | ⟨nonempty, dir, store, absolute, reads⟩
  · cases checked : isSafeCredentialId key with
    | false => simp [independentOfCwd_of_rejected reads checked]
    | true => simp [not_independentOfCwd reads checked, empty]
  · have independent : IndependentOfCwd env key := by
      cases checked : isSafeCredentialId key with
      | false => exact independentOfCwd_of_rejected reads checked
      | true => exact independentOfCwd_of_absolute reads store absolute checked
    simp [independent, nonempty]

/-! ## A planted credential -/

/-- Only `$CREDENTIALS_DIRECTORY` is set, to the empty string. -/
def emptyCredentialsDirectory : Environment where
  varOs name := if name = credentialsDirEnv then some [] else none
  nul_not_mem := by
    intro name value found
    split_ifs at found with named
    rw [← Option.some.inj found]
    exact List.not_mem_nil

/-- A tree with a file named like a credential in `/tmp`, and none in `/srv`. -/
def plantedWorld (cwd : String) : World where
  root := .directory true
    [(utf8 "tmp".toList,
        .directory true [(utf8 "kdbx-master".toList, .regular true (utf8 "planted".toList))]),
      (utf8 "srv".toList, .directory true [])]
  cwd := [utf8 cwd.toList]

theorem usualEnvironment_emptyCredentialsDirectory :
    UsualEnvironment emptyCredentialsDirectory := by
  constructor
  · intro dir found
    exact Or.inl (Option.some.inj found).symm
  · intro dir found
    cases found

/-- The file in the working directory is taken for the master password. -/
theorem plantedWorld_not_independentOfCwd :
    (getMasterPassword emptyCredentialsDirectory "kdbx-master".toList).run
        (plantedWorld "tmp").readFile = .ok "planted".toList ∧
      ¬IndependentOfCwd emptyCredentialsDirectory "kdbx-master".toList := by
  have inTmp : (getMasterPassword emptyCredentialsDirectory "kdbx-master".toList).run
      (plantedWorld "tmp").readFile = .ok "planted".toList := by decide
  have inSrv : (getMasterPassword emptyCredentialsDirectory "kdbx-master".toList).run
      (plantedWorld "srv").readFile = .error (.secretNotFound "kdbx-master".toList) := by decide
  constructor
  · exact inTmp
  · intro independent
    have same : SameStores emptyCredentialsDirectory (plantedWorld "tmp") (plantedWorld "srv") :=
      fun _ _ path below => World.readFile_of_isAbsolute rfl below.1
    have results := independent.sameResult _ _ same
    rw [inTmp, inSrv] at results
    cases results

theorem independentOfCwd_iff_emptyCredentialsDirectory :
    IndependentOfCwd emptyCredentialsDirectory "kdbx-master".toList ↔
      ¬(ChoosesEmpty emptyCredentialsDirectory ∧
        isSafeCredentialId "kdbx-master".toList = true) :=
  independentOfCwd_iff usualEnvironment_emptyCredentialsDirectory "kdbx-master".toList

end KdbxCredentials.SecretStore
