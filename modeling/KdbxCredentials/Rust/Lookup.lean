import KdbxCredentials.Rust.Entry
import KdbxCredentials.Rust.Node
import KdbxCredentials.Rust.Path
import KdbxCredentials.Descent.Simulation

/-!
# Looking up an entry

`lookup` of `lib.rs` with the functions it calls.  `locate` is `lookup` up to
the call of `build_entry`, so it returns the selected node itself.  The group
walk is greedy descent over the matching child groups, and the outcome of a
lookup depends only on the list of matching entries in the group it ends at.
-/

namespace KdbxCredentials.Rust

open KdbxCredentials.Text
open KdbxCredentials.Descent

variable (toLowercase : Str → Str)

/-- Case-insensitive comparison of a node's title with a lowercased target. -/
def titleMatches (node : NodePtr) (target : Str) : Bool :=
  (node.node.getTitle.map fun title => toLowercase title == target).getD false

/-- Walk the group tree, following each segment by name. -/
def findGroup (current : NodePtr) : List Str → Option NodePtr
  | [] => some current
  | segment :: rest => do
      let children ← groupGetChildren current
      let next ← children.find? fun child =>
        nodeIsGroup child && titleMatches toLowercase child segment
      findGroup next rest

/-- The direct child entries of `group` whose title matches. -/
def matchingEntries (group : NodePtr) (title : Str) : List NodePtr :=
  ((groupGetChildren group).getD []).filter fun child =>
    nodeIsEntry child && titleMatches toLowercase child title

/-- Read the four built-in fields of an entry node. -/
def buildEntry (node : NodePtr) : Entry :=
  (withEntry node fun e =>
    { username := e.username
      password := e.password
      url := e.url
      notes := e.notes : Entry }).getD {}

/-- The node that `lookup` hands to `build_entry`. -/
def locate (db : KpDatabase) (path : Str) : Except KdbxError NodePtr := do
  let parsed ← parse toLowercase path
  match findGroup toLowercase db.rootPtr parsed.groups with
  | none => .error (.entryNotFound path)
  | some group =>
      match matchingEntries toLowercase group parsed.title with
      | [] => .error (.entryNotFound path)
      | [node] => .ok node
      | _ => .error (.ambiguousEntry path)

/-- Look up a single entry by its `group/title` path. -/
def lookup (db : KpDatabase) (path : Str) : Except KdbxError Entry := do
  let node ← locate toLowercase db path
  return buildEntry node

/-! ## The walk as a descent -/

/-- The child groups of a node that match a segment, in order. -/
def groupCandidates (node : NodePtr) (segment : Str) : List NodePtr :=
  (childPtrs node).filter fun child =>
    nodeIsGroup child && titleMatches toLowercase child segment

theorem findGroup_eq_descend (current : NodePtr) (groups : List Str) :
    findGroup toLowercase current groups =
      descend (groupCandidates toLowercase) current groups := by
  induction groups generalizing current with
  | nil => rfl
  | cons segment rest ih =>
      rcases current with ⟨address, node⟩
      cases node with
      | entry fields => rfl
      | group name children =>
          rw [findGroup, groupGetChildren_of_isGroup rfl, descend_cons, groupCandidates,
            List.head?_filter, Option.bind_eq_bind, Option.bind_some, Option.bind_eq_bind]
          congr 1
          funext next
          exact ih next

theorem mem_groupCandidates_iff {node child : NodePtr} {segment : Str} :
    child ∈ groupCandidates toLowercase node segment ↔
      child ∈ childPtrs node ∧ child.node.isGroup = true ∧
        titleMatches toLowercase child segment = true := by
  simp [groupCandidates, nodeIsGroup]

theorem mem_matchingEntries_iff {group child : NodePtr} {title : Str} :
    child ∈ matchingEntries toLowercase group title ↔
      child ∈ childPtrs group ∧ child.node.isEntry = true ∧
        titleMatches toLowercase child title = true := by
  simp [matchingEntries, nodeIsEntry]

/-- A title matches when it is present and its lowercase form is the target. -/
theorem titleMatches_iff {node : NodePtr} {target : Str} :
    titleMatches toLowercase node target = true ↔
      ∃ title, node.node.getTitle = some title ∧ toLowercase title = target := by
  cases found : node.node.getTitle <;> simp [titleMatches, found]

/-! ## The outcome of a lookup -/

/-- The matching entries of the group the walk ends at; none when it stops. -/
def firstMatches (db : KpDatabase) (parsed : ParsedPath) : List NodePtr :=
  match findGroup toLowercase db.rootPtr parsed.groups with
  | none => []
  | some group => matchingEntries toLowercase group parsed.title

/-- The outcome of a lookup with the given matches. -/
def outcome (path : Str) : List NodePtr → Except KdbxError NodePtr
  | [] => .error (.entryNotFound path)
  | [node] => .ok node
  | _ :: _ :: _ => .error (.ambiguousEntry path)

/-- A node is selected when it is the only match. -/
theorem outcome_eq_ok_iff {path : Str} {found : List NodePtr} {node : NodePtr} :
    outcome path found = .ok node ↔ found = [node] := by
  rcases found with _ | ⟨first, _ | ⟨second, rest⟩⟩ <;> simp [outcome]

/-- A valid path is looked up by the number of matches. -/
theorem locate_eq_outcome {path : Str} {parsed : ParsedPath} (db : KpDatabase)
    (accepted : parse toLowercase path = .ok parsed) :
    locate toLowercase db path = outcome path (firstMatches toLowercase db parsed) := by
  rw [locate, accepted, firstMatches]
  change (match findGroup toLowercase db.rootPtr parsed.groups with
    | none => _
    | some group => _) = _
  cases findGroup toLowercase db.rootPtr parsed.groups with
  | none => rfl
  | some group =>
      dsimp only
      rcases matchingEntries toLowercase group parsed.title with _ | ⟨node, _ | ⟨next, rest⟩⟩ <;>
        rfl

/-- An invalid path is rejected before the tree is looked at. -/
theorem locate_of_parse_error {path : Str} {error : KdbxError} (db : KpDatabase)
    (rejected : parse toLowercase path = .error error) :
    locate toLowercase db path = .error error := by
  rw [locate, rejected]
  rfl

/-- `lookup` builds its entry from the located node. -/
theorem lookup_eq_map (db : KpDatabase) (path : Str) :
    lookup toLowercase db path = (locate toLowercase db path).map buildEntry := by
  rw [lookup]
  cases locate toLowercase db path <;> rfl

/-! ## Two lookups in step -/

/-- A relation of nodes that is kept by the matching child groups carries a
relation of their matching entries over to the matches of two lookups. -/
theorem firstMatches_rel {R : NodePtr → NodePtr → Prop} {P : List NodePtr → List NodePtr → Prop}
    (groups : ∀ {ptr ptr'} segment, R ptr ptr' →
      List.Forall₂ R (groupCandidates toLowercase ptr segment)
        (groupCandidates toLowercase ptr' segment))
    (entries : ∀ {ptr ptr'} title, R ptr ptr' →
      P (matchingEntries toLowercase ptr title) (matchingEntries toLowercase ptr' title))
    (nothing : P [] []) {db db' : KpDatabase} (start : R db.rootPtr db'.rootPtr)
    (parsed : ParsedPath) :
    P (firstMatches toLowercase db parsed) (firstMatches toLowercase db' parsed) := by
  have walks : Option.Rel R
      (findGroup toLowercase db.rootPtr parsed.groups)
      (findGroup toLowercase db'.rootPtr parsed.groups) := by
    rw [findGroup_eq_descend, findGroup_eq_descend]
    have sameKeys : List.Forall₂ Eq parsed.groups parsed.groups := List.forall₂_refl _
    apply descend_rel _ start sameKeys
    rintro ptr ptr' segment _ related rfl
    exact head?_rel (groups segment related)
  rw [firstMatches, firstMatches]
  generalize findGroup toLowercase db.rootPtr parsed.groups = walk at walks ⊢
  generalize findGroup toLowercase db'.rootPtr parsed.groups = walk' at walks ⊢
  cases walks with
  | none => exact nothing
  | some related => exact entries parsed.title related

end KdbxCredentials.Rust
