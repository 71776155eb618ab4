import KdbxCredentials.Lookup.MatchCount

/-!
# Where a found entry comes from

`lookup` has two silent fallbacks: `matching_entries` reads a node without
children as one with an empty list, and `build_entry` reads a node that is not
an entry as an entry with no fields.  The walk stays on groups and the filter
keeps entries, so neither is ever taken, and what a lookup returns is read from
one node of the tree.
-/

namespace KdbxCredentials.Lookup

open KdbxCredentials.Text
open KdbxCredentials.Descent
open KdbxCredentials.Rust

variable (toLowercase : Str → Str)

/-! ## The lookup without its fallbacks -/

/-- `matching_entries` that fails on a node without children. -/
def matchingEntriesStrict (group : NodePtr) (title : Str) : Option (List NodePtr) := do
  let children ← groupGetChildren group
  return children.filter fun child =>
    nodeIsEntry child && titleMatches toLowercase child title

/-- `build_entry` that fails on a node that is not an entry. -/
def buildEntryStrict (node : NodePtr) : Option Entry :=
  withEntry node fun e =>
    { username := e.username
      password := e.password
      url := e.url
      notes := e.notes : Entry }

/-- `lookup` with `none` wherever a fallback would be taken. -/
def lookupStrict (db : KpDatabase) (path : Str) : Option (Except KdbxError Entry) :=
  match parse toLowercase path with
  | .error error => some (.error error)
  | .ok parsed =>
      match findGroup toLowercase db.rootPtr parsed.groups with
      | none => some (.error (.entryNotFound path))
      | some group => do
          match ← matchingEntriesStrict toLowercase group parsed.title with
          | [] => return .error (.entryNotFound path)
          | [node] => return .ok (← buildEntryStrict node)
          | _ => return .error (.ambiguousEntry path)

/-- The entry `e` was read from `node`, the only entry of `group` with the title
of the path, where a chain of groups that spells the path ends at `group`. -/
structure ReadFrom (db : KpDatabase) (path : Str) (parsed : ParsedPath) (group node : NodePtr)
    (fields : KpEntry) (e : Entry) : Prop where
  accepted : parse toLowercase path = .ok parsed
  located : locate toLowercase db path = .ok node
  chain : GroupChain toLowercase db.rootPtr parsed.groups group
  child : node ∈ childPtrs group
  node_eq : node.node = .entry fields
  titled : TitledEntry toLowercase parsed.title node
  only : ∀ other ∈ childPtrs group, TitledEntry toLowercase parsed.title other → other = node
  username : e.username = fields.username
  password : e.password = fields.password
  url : e.url = fields.url
  notes : e.notes = fields.notes

/-! ## The walk stays on groups -/

variable {toLowercase}

/-- Every node of a chain that starts at a group is a group. -/
theorem GroupChain.isGroup {group target : NodePtr} {segs : List Str}
    (chain : GroupChain toLowercase group segs target) (start : group.node.isGroup = true) :
    target.node.isGroup = true := by
  induction chain with
  | here group => exact start
  | step _ named _ ih => exact ih named.1

theorem isGroup_of_findGroup {db : KpDatabase} {group : NodePtr} {groups : List Str}
    (walk : findGroup toLowercase db.rootPtr groups = some group) :
    group.node.isGroup = true := by
  have chain := (findGroup_eq_some_iff ..).mp walk
  exact chain.groupChain.isGroup db.root_isGroup

/-- A group is searched without the fallback. -/
theorem matchingEntriesStrict_of_isGroup {group : NodePtr} (isGroup : group.node.isGroup = true)
    (title : Str) :
    matchingEntriesStrict toLowercase group title =
      some (matchingEntries toLowercase group title) := by
  rw [matchingEntriesStrict, matchingEntries, groupGetChildren_of_isGroup isGroup]
  rfl

/-- An entry is built without the fallback. -/
theorem buildEntryStrict_of_isEntry {node : NodePtr} (isEntry : node.node.isEntry = true) :
    buildEntryStrict node = some (buildEntry node) := by
  rcases node with ⟨address, node⟩
  cases node with
  | group name children => contradiction
  | entry fields => rfl

/-- Neither fallback of `lookup` is reachable. -/
theorem lookupStrict_eq_some (db : KpDatabase) (path : Str) :
    lookupStrict toLowercase db path = some (lookup toLowercase db path) := by
  rw [lookup_eq_map, lookupStrict]
  cases accepted : parse toLowercase path with
  | error error =>
      rw [locate_of_parse_error toLowercase db accepted]
      rfl
  | ok parsed =>
      rw [locate_eq_outcome toLowercase db accepted, firstMatches]
      dsimp only
      cases walk : findGroup toLowercase db.rootPtr parsed.groups with
      | none => rfl
      | some group =>
          dsimp only
          rw [matchingEntriesStrict_of_isGroup (isGroup_of_findGroup walk), Option.bind_eq_bind,
            Option.bind_some]
          rcases found : matchingEntries toLowercase group parsed.title with
            _ | ⟨node, _ | ⟨second, rest⟩⟩
          · rfl
          · have member : node ∈ matchingEntries toLowercase group parsed.title := by
              rw [found]
              exact List.mem_cons_self
            have isEntry := ((mem_matchingEntries_iff toLowercase).mp member).2.1
            dsimp only
            rw [buildEntryStrict_of_isEntry isEntry]
            rfl
          · rfl

/-! ## What a found entry is -/

/-- The node that a lookup selects is the only match in a group at the end of a
chain. -/
theorem located_spec {db : KpDatabase} {path : Str} {node : NodePtr}
    (located : locate toLowercase db path = .ok node) :
    ∃ parsed group,
      parse toLowercase path = .ok parsed ∧
        GroupChain toLowercase db.rootPtr parsed.groups group ∧
        node ∈ childPtrs group ∧ TitledEntry toLowercase parsed.title node ∧
        ∀ other ∈ childPtrs group, TitledEntry toLowercase parsed.title other → other = node := by
  cases accepted : parse toLowercase path with
  | error error =>
      rw [locate_of_parse_error toLowercase db accepted] at located
      contradiction
  | ok parsed =>
      rw [locate_eq_outcome toLowercase db accepted, outcome_eq_ok_iff] at located
      have isFirst := fun other => mem_firstMatches_iff toLowercase db parsed other
      simp only [located, List.mem_singleton] at isFirst
      rcases (isFirst node).mp rfl with ⟨group, chain, member, titled⟩
      refine ⟨parsed, group, rfl, chain.groupChain, member, titled, ?_⟩
      intro other otherMem otherTitled
      exact (isFirst other).mpr ⟨group, chain, otherMem, otherTitled⟩

/-- A found entry is read from one entry node of the tree, and the fallbacks of
`lookup` are never taken. -/
theorem lookup_readFrom (toLowercase : Str → Str) (db : KpDatabase) (path : Str) :
    (∀ e, lookup toLowercase db path = .ok e →
        ∃ parsed group node fields, ReadFrom toLowercase db path parsed group node fields e) ∧
      lookupStrict toLowercase db path = some (lookup toLowercase db path) := by
  constructor
  · intro e found
    rw [lookup_eq_map] at found
    cases located : locate toLowercase db path with
    | error error =>
        rw [located] at found
        contradiction
    | ok node =>
        rw [located] at found
        have e_eq : buildEntry node = e := Except.ok.inj found
        subst e
        rcases located_spec located with
          ⟨parsed, group, accepted, chain, member, titled, only⟩
        rcases node with ⟨address, node⟩
        cases node with
        | group name children => exact absurd titled.1 (by simp [Node.isEntry])
        | entry fields =>
            exact ⟨parsed, group, ⟨address, .entry fields⟩, fields, accepted, located, chain,
              member, rfl, titled, only, rfl, rfl, rfl, rfl⟩
  · exact lookupStrict_eq_some db path

end KdbxCredentials.Lookup
