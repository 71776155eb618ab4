import KdbxCredentials.CSharp.WindowsSecretStore
import KdbxCredentials.Effects.Core
import Mathlib.Logic.Function.Basic

/-!
# The provisioning script

`provision-credential.ps1` as a program over a machine: the password file, the
vault of the account, the console and the log file.  Every command of the script
may fail, in a way that depends on the number of commands before it, and with
`$ErrorActionPreference = 'Stop'` a failure is an error that the next `catch`
handles.  The program `cmdkey` is a parameter.
-/

namespace KdbxCredentials.Provisioning

open KdbxCredentials.Text
open KdbxCredentials.Effects

/-! ## The machine -/

/-- The largest blob of a credential, in bytes. -/
def maxBlobSize : Nat :=
  5 * 512

/-- A generic credential: its account and the bytes that it holds. -/
structure Stored where
  account : Str
  blob : Bytes
  fits : blob.length ≤ maxBlobSize

/-- The generic credentials of an account, by the names that they are read under. -/
abbrev Vault := Str → Option Stored

/-- What the script works on.  Of a deleted file the contents that it had last are
kept.  The other file is what .NET finds under the name of the password file when its
current directory is not the location of PowerShell. -/
structure Machine where
  passwordFile : Option Bytes
  otherFile : Option Bytes := none
  remains : List Bytes := []
  vault : Vault
  console : List Str := []
  log : List Str := []
  commands : Nat := 0

/-- The machine when the script starts. -/
def Machine.fresh (passwordFile : Option Bytes) (vault : Vault) : Machine :=
  { passwordFile := passwordFile, vault := vault }

/-- The machine after one more command. -/
def Machine.tick (m : Machine) : Machine :=
  { m with commands := m.commands + 1 }

/-- The `param` block. -/
structure Parameters where
  passwordFile : Str
  key : Str
  account : Str
  user : Str
  logFile : Str

/-- How the commands of a run come out: whether they fail and with what message,
the date, the text of a file, whether .NET takes the path of the password file as
PowerShell does, what `cmdkey` does with a key, an account and a password, and what
`cmdkey /list` prints.  Names of credentials and letters are compared without regard
to case. -/
structure Surroundings where
  fault : Nat → Option Str
  date : Nat → Str
  decode : Bytes → Str
  samePath : Bool
  cmdkey : Nat → Vault → Str → Str → Str → Int × Vault
  listing : Vault → Str → List Str
  sameTarget : Str → Str → Bool
  sameLetter : Char → Char → Bool

/-- A part of the script; it may throw an error with a message. -/
abbrev Script : Type → Type :=
  Action Machine Str

variable (p : Parameters) (s : Surroundings) {α : Type}

/-- A command, which fails or does what it is for. -/
def command (run : Script α) : Script α := do
  let m ← get
  set m.tick
  match s.fault m.commands with
  | some message => throw message
  | none => run

/-! ## Commands -/

/-- `Get-Date -Format 's'`. -/
def getDate : Script Str :=
  command s do
    let m ← get
    return s.date m.commands

/-- `Write-Host`. -/
def writeHost (line : Str) : Script PUnit :=
  command s (modify fun m => { m with console := m.console ++ [line] })

/-- `Add-Content` to the log file. -/
def addContent (line : Str) : Script PUnit :=
  command s (modify fun m => { m with log := m.log ++ [line] })

/-- `Test-Path` of the password file. -/
def testPath : Script Bool :=
  command s do
    let m ← get
    return m.passwordFile.isSome

/-- What a command throws that needs the password file. -/
def cannotFindPath : Str :=
  "Cannot find path '".toList ++ p.passwordFile ++ "' because it does not exist.".toList

/-- The contents of the password file. -/
def fileContents : Script Bytes := do
  let m ← get
  match m.passwordFile with
  | some contents => return contents
  | none => throw (cannotFindPath p)

/-- `Get-Content -Raw`. -/
def getContent : Script Str :=
  command s do
    let contents ← fileContents p
    return s.decode contents

/-- `(Get-Item …).Length`. -/
def getLength : Script Nat :=
  command s do
    let contents ← fileContents p
    return contents.length

/-- `[System.IO.File]::WriteAllBytes` with zeros, which resolves the path by the current
directory of the process. -/
def writeZeros (length : Nat) : Script PUnit :=
  command s
    (modify fun m =>
      if s.samePath then { m with passwordFile := some (List.replicate length 0) }
      else { m with otherFile := some (List.replicate length 0) })

/-- `Remove-Item -Force`. -/
def removeItem : Script PUnit :=
  command s do
    let contents ← fileContents p
    modify fun m => { m with passwordFile := none, remains := m.remains ++ [contents] }

/-- `cmdkey /generic:$Key /user:$Account /pass:$pw`, as its exit code. -/
def cmdkeyGeneric (pw : Str) : Script Int :=
  command s do
    let m ← get
    let (code, vault) := s.cmdkey m.commands m.vault p.key p.account pw
    set { m with vault := vault }
    return code

/-- `cmdkey /list:$Key`. -/
def cmdkeyList : Script (List Str) :=
  command s do
    let m ← get
    return s.listing m.vault p.key

/-! ## The script -/

/-- `Log`. -/
def log (msg : Str) : Script PUnit := do
  let date ← getDate s
  let line := date ++ "  ".toList ++ msg
  writeHost s line
  if p.logFile ≠ [] then
    addContent s line

/-- `-replace '(\r?\n)\z', ''`: without one trailing newline. -/
def stripNewline (text : Str) : Str :=
  match text.reverse with
  | '\n' :: '\r' :: rest => rest.reverse
  | '\n' :: rest => rest.reverse
  | _ => text

/-- Whether a text starts with a word, letter by letter. -/
def startsWith (sameLetter : Char → Char → Bool) : Str → Str → Bool
  | [], _ => true
  | _ :: _, [] => false
  | letter :: word, c :: text => sameLetter letter c && startsWith sameLetter word text

/-- `-match [regex]::Escape($Key)`: some line has the key in it. -/
def mentions (lines : List Str) (key : Str) : Bool :=
  lines.any fun line => line.tails.any (startsWith s.sameLetter key)

/-- The `try` block; its value is that of `$exit`. -/
def provision : Script Int := do
  log p s ("Provisioning '".toList ++ p.key ++ "' (account '".toList ++ p.account ++
    "') as ".toList ++ p.user)
  let present ← testPath s
  if !present then
    throw ("password file not found: ".toList ++ p.passwordFile)
  let text ← getContent p s
  let pw := stripNewline text
  if pw = [] then
    throw ("password file is empty: ".toList ++ p.passwordFile)
  let lastExitCode ← cmdkeyGeneric p s pw
  if lastExitCode ≠ 0 then
    throw ("cmdkey failed with exit code ".toList ++ (toString lastExitCode).toList)
  let lines ← cmdkeyList p s
  if !mentions s lines p.key then
    throw ("credential '".toList ++ p.key ++ "' not found after write".toList)
  log p s ("PASS: credential '".toList ++ p.key ++ "' written to the vault of ".toList ++ p.user)
  return 0

/-- The `catch` block. -/
def fail (message : Str) : Script Int := do
  log p s ("FAIL: ".toList ++ message)
  return 1

/-- The warning for a file that could not be shredded. -/
def warning (message : Str) : Str :=
  "WARN: could not shred ".toList ++ p.passwordFile ++ " - ".toList ++ message

/-- The `try` block of the `finally` block. -/
def overwriteAndDelete : Script PUnit := do
  let len ← getLength p s
  if len > 0 then
    writeZeros s len
  removeItem p s
  log p s ("Shredded password file: ".toList ++ p.passwordFile)

/-- The `finally` block. -/
def shred : Script PUnit := do
  let present ← testPath s
  if present then
    tryCatch (overwriteAndDelete p s) fun message => log p s (warning p message)

/-- The script. -/
def script : Script Int :=
  tryFinally (tryCatch (provision p s) (fail p s)) (shred p s)

/-- The exit code of a run; an error that nothing handles ends it with 1. -/
def exitCode : Except Str Int → Int
  | .ok code => code
  | .error _ => 1

/-! ## `cmdkey` -/

/-- A text that a command line hands over as it is. -/
structure Literal (text : Str) : Prop where
  nonempty : text ≠ []
  noNul : Char.ofNat 0 ∉ text
  noQuote : '"' ∉ text
  noBackslash : text.getLast? ≠ some '\\'

/-- The password is stored under the key, and under no other name has anything
changed. -/
structure Stores (key account pw : Str) (before after : Vault) : Prop where
  stored : ∃ stored, after key = some stored ∧ stored.account = account ∧
    stored.blob = utf16 (spell pw)
  others : ∀ target, s.sameTarget key target = false → after target = before target

/-- The documented behaviour of `cmdkey`: it stores what it is given, in UTF-16, or
fails and stores nothing. -/
structure CmdkeyDocumented : Prop where
  stores : ∀ n vault key account pw, Literal key → Literal account → Literal pw →
    (s.cmdkey n vault key account pw).1 = 0 →
      Stores s key account pw vault (s.cmdkey n vault key account pw).2
  fails : ∀ n vault key account pw, (s.cmdkey n vault key account pw).1 ≠ 0 →
    (s.cmdkey n vault key account pw).2 = vault

/-! ## An account -/

/-- The defaults of the script, for an account. -/
def defaultParameters : Parameters where
  passwordFile := "C:\\kdbx.txt".toList
  key := "kdbx-master".toList
  account := "kdbx-credentials".toList
  user := "AC\\scheduler".toList
  logFile := []

/-- A `cmdkey` that stores what fits. -/
def storeFitting (vault : Vault) (key account pw : Str) : Int × Vault :=
  if fits : (utf16 (spell pw)).length ≤ maxBlobSize then
    (0, Function.update vault key (some ⟨account, utf16 (spell pw), fits⟩))
  else (87, vault)

/-- Surroundings in which nothing fails and files are in UTF-8. -/
def quietSurroundings : Surroundings where
  fault _ := none
  date _ := "2026-01-01T00:00:00".toList
  decode bytes := (decodeUtf8 bytes).getD []
  samePath := true
  cmdkey _ := storeFitting
  listing _ key := ["Currently stored credentials:".toList, "    Target: ".toList ++ key]
  sameTarget target other := target.map Char.toLower = other.map Char.toLower
  sameLetter letter other := letter.toLower = other.toLower

theorem cmdkeyDocumented_quiet : CmdkeyDocumented quietSurroundings where
  stores := by
    intro _ vault key account pw _ _ _ succeeded
    change (storeFitting vault key account pw).1 = 0 at succeeded
    change Stores _ key account pw vault (storeFitting vault key account pw).2
    rw [storeFitting] at succeeded ⊢
    split_ifs at succeeded ⊢ with fits
    · constructor
      · exact ⟨_, Function.update_self _ _ _, rfl, rfl⟩
      · intro target other
        apply Function.update_of_ne
        rintro rfl
        simp [quietSurroundings] at other
    · cases succeeded
  fails := by
    intro _ vault key account pw failed
    change (storeFitting vault key account pw).1 ≠ 0 at failed
    change (storeFitting vault key account pw).2 = vault
    rw [storeFitting] at failed ⊢
    split_ifs at failed ⊢
    · exact absurd rfl failed
    · rfl

end KdbxCredentials.Provisioning
