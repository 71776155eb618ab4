import KdbxCredentials.Text.Utf8

/-!
# Entries and their rendering

The `Entry` of `lib.rs` and its redacting `Debug` implementation.  The renderer
of `debug_struct` writes the fields on one line for `{:?}` and on a line each
for `{:#?}`.
-/

namespace KdbxCredentials.Rust

open KdbxCredentials.Text

/-- The four built-in fields of an entry; all of them are absent by default. -/
structure Entry where
  username : Option Str := none
  password : Option Str := none
  url : Option Str := none
  notes : Option Str := none
  deriving DecidableEq, Repr

/-- The rendering of one field: present or absent, and never its value. -/
def redact (o : Option Str) : String :=
  if o.isSome then "Some(<redacted>)" else "None"

/-- `Formatter::debug_struct` with its labelled fields, then `finish`. -/
def debugStruct (alternate : Bool) (name : String) (fields : List (String × String)) : String :=
  if alternate then
    name ++ " \x7b\n" ++
      String.join (fields.map fun field => "    " ++ field.1 ++ ": " ++ field.2 ++ ",\n") ++
      "\x7d"
  else
    name ++ " \x7b " ++
      ", ".intercalate (fields.map fun field => field.1 ++ ": " ++ field.2) ++
      " \x7d"

/-- `impl Debug for Entry`. -/
def Entry.debug (alternate : Bool) (entry : Entry) : String :=
  debugStruct alternate "Entry"
    [("username", redact entry.username),
      ("password", redact entry.password),
      ("url", redact entry.url),
      ("notes", redact entry.notes)]

/-- Entries with the same fields present. -/
structure Entry.SamePresence (e e' : Entry) : Prop where
  username : e.username.isSome = e'.username.isSome
  password : e.password.isSome = e'.password.isSome
  url : e.url.isSome = e'.url.isSome
  notes : e.notes.isSome = e'.notes.isSome

/-- The rendering of an entry shows which fields are present and nothing else. -/
theorem Entry.SamePresence.debug_eq {e e' : Entry} (same : e.SamePresence e')
    (alternate : Bool) : e.debug alternate = e'.debug alternate := by
  simp only [Entry.debug, redact, same.username, same.password, same.url, same.notes]

end KdbxCredentials.Rust
