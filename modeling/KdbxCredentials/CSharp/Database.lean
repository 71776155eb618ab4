import KdbxCredentials.CSharp.PathParser
import KdbxCredentials.Descent.Core

/-!
# The database of the C# library

`Database.Lookup` over the part of the KeePassLib tree that it reads.  Unlike
the Rust reader, KeePassLib keeps the subgroups and the entries of a group in
two lists and the fields of an entry in a string dictionary, and a missing name
or field reads as the empty string.
-/

namespace KdbxCredentials.CSharp

open KdbxCredentials.Text
open KdbxCredentials.Descent

/-! ## KeePassLib -/

/-- The field names of `PwDefs`. -/
def titleField : Str := "Title".toList

def userNameField : Str := "UserName".toList

def passwordField : Str := "Password".toList

def urlField : Str := "URL".toList

def notesField : Str := "Notes".toList

/-- `ProtectedStringDictionary`: the strings of an entry by field name. -/
structure ProtectedStringDictionary where
  get : Str → Option Str

namespace ProtectedStringDictionary

/-- `Exists`. -/
def «exists» (strings : ProtectedStringDictionary) (key : Str) : Bool :=
  (strings.get key).isSome

/-- `ReadSafe`: the value of a key, and the empty string without one. -/
def readSafe (strings : ProtectedStringDictionary) (key : Str) : Str :=
  (strings.get key).getD []

end ProtectedStringDictionary

structure PwEntry where
  strings : ProtectedStringDictionary

/-- `PwGroup`, with its ordered lists of subgroups and of entries. -/
structure PwGroup where
  name : Str
  groups : List PwGroup
  entries : List PwEntry

/-! ## The database -/

/-- The four built-in fields of an entry. -/
structure Entry where
  username : Option Str
  password : Option Str
  url : Option Str
  notes : Option Str
  deriving DecidableEq, Repr

/-- An open database; `Dispose` sets its flag. -/
structure Database where
  rootGroup : PwGroup
  disposed : Bool := false

/-- Read a field's decrypted value, or nothing if it is absent. -/
def field (e : PwEntry) (key : Str) : Option Str :=
  if e.strings.exists key then some (e.strings.readSafe key) else none

def buildEntry (e : PwEntry) : Entry where
  username := field e userNameField
  password := field e passwordField
  url := field e urlField
  notes := field e notesField

theorem field_eq_get (e : PwEntry) (key : Str) : field e key = e.strings.get key := by
  rw [field, ProtectedStringDictionary.exists, ProtectedStringDictionary.readSafe]
  cases e.strings.get key <;> rfl

variable (upper : Char → Char)

/-- The loop of `Lookup` over the group segments; `none` is the exit that throws
`EntryNotFoundException`. -/
def walk : PwGroup → List Str → Option PwGroup
  | group, [] => some group
  | group, segment :: rest => do
      let next ← group.groups.find? fun g => equalsOrdinalIgnoreCase upper g.name segment
      walk next rest

/-- The entries of a group that carry the title. -/
def matchingEntries (group : PwGroup) (title : Str) : List PwEntry :=
  group.entries.filter fun e =>
    equalsOrdinalIgnoreCase upper (e.strings.readSafe titleField) title

/-- `Database.Lookup`. -/
def Database.lookup (db : Database) (path : Str) : Except Thrown Entry := do
  if db.disposed then
    throw (.system .objectDisposed)
  let parsed ← (parse upper path).mapError Thrown.kdbx
  match walk upper db.rootGroup parsed.groups with
  | none => throw (.kdbx (.entryNotFound path))
  | some group =>
      match matchingEntries upper group parsed.title with
      | [] => throw (.kdbx (.entryNotFound path))
      | [e] => return buildEntry e
      | _ => throw (.kdbx (.ambiguousEntry path))

/-! ## The walk and the outcome -/

/-- The subgroups of a group that match a segment, in order. -/
def groupCandidates (group : PwGroup) (segment : Str) : List PwGroup :=
  group.groups.filter fun g => equalsOrdinalIgnoreCase upper g.name segment

theorem walk_eq_descend (group : PwGroup) (segments : List Str) :
    walk upper group segments = descend (groupCandidates upper) group segments := by
  induction segments generalizing group with
  | nil => rfl
  | cons segment rest ih =>
      rw [walk, descend_cons, groupCandidates, List.head?_filter, Option.bind_eq_bind]
      congr 1
      funext next
      exact ih next

/-- The matching entries of the group the walk ends at; none when it stops. -/
def Database.found (db : Database) (parsed : ParsedPath) : List PwEntry :=
  match walk upper db.rootGroup parsed.groups with
  | none => []
  | some group => matchingEntries upper group parsed.title

/-- The outcome of a lookup with the given matches. -/
def outcome (path : Str) : List PwEntry → Except Thrown Entry
  | [] => .error (.kdbx (.entryNotFound path))
  | [e] => .ok (buildEntry e)
  | _ :: _ :: _ => .error (.kdbx (.ambiguousEntry path))

variable {upper} {db : Database} {path : Str}

/-- A valid path is looked up by the number of matches. -/
theorem Database.lookup_eq_outcome (isOpen : db.disposed = false) {parsed : ParsedPath}
    (accepted : parse upper path = .ok parsed) :
    db.lookup upper path = outcome path (db.found upper parsed) := by
  rw [Database.lookup, accepted, isOpen, Database.found]
  change (match walk upper db.rootGroup parsed.groups with
    | none => _
    | some group => _) = _
  cases walk upper db.rootGroup parsed.groups with
  | none => rfl
  | some group =>
      dsimp only
      rcases matchingEntries upper group parsed.title with _ | ⟨e, _ | ⟨next, rest⟩⟩ <;> rfl

/-- An invalid path is rejected before the tree is looked at. -/
theorem Database.lookup_of_parse_error (isOpen : db.disposed = false)
    {exception : KdbxException} (rejected : parse upper path = .error exception) :
    db.lookup upper path = .error (.kdbx exception) := by
  rw [Database.lookup, rejected, isOpen]
  rfl

end KdbxCredentials.CSharp
