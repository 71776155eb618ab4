import KdbxCredentials.Lookup.Provenance

/-!
# Lookups and changes of fields

A change of the fields of every entry that keeps the titles moves no lookup: the
walk and the title filter read names only, so the same node is selected, with its
fields changed.
-/

namespace KdbxCredentials.Lookup

open KdbxCredentials.Text
open KdbxCredentials.Rust

variable (change : KpEntry → KpEntry)

mutual

/-- Change the fields of every entry of a tree. -/
def mapEntries : Node → Node
  | .group name children => .group name (mapEntriesAll children)
  | .entry fields => .entry (change fields)

/-- Change the fields of every entry of several trees. -/
def mapEntriesAll : List Node → List Node
  | [] => []
  | node :: rest => mapEntries node :: mapEntriesAll rest

end

theorem mapEntriesAll_eq_map (nodes : List Node) :
    mapEntriesAll change nodes = nodes.map (mapEntries change) := by
  induction nodes with
  | nil => rfl
  | cons node rest ih => rw [mapEntriesAll, ih, List.map_cons]

theorem isGroup_mapEntries (node : Node) : (mapEntries change node).isGroup = node.isGroup := by
  cases node <;> rfl

theorem isEntry_mapEntries (node : Node) : (mapEntries change node).isEntry = node.isEntry := by
  cases node <;> rfl

theorem children_mapEntries (node : Node) :
    (mapEntries change node).children = node.children.map (mapEntries change) := by
  cases node with
  | group name children =>
      rw [mapEntries, Node.children, Node.children, mapEntriesAll_eq_map]
  | entry fields => rfl

/-- The changed database. -/
def mapDatabase (db : KpDatabase) : KpDatabase where
  root := mapEntries change db.root
  root_isGroup := (isGroup_mapEntries change db.root).trans db.root_isGroup

/-- The pointer to the changed node. -/
def mapPtr (ptr : NodePtr) : NodePtr where
  address := ptr.address
  node := mapEntries change ptr.node

theorem childPtrs_mapPtr (ptr : NodePtr) :
    childPtrs (mapPtr change ptr) = (childPtrs ptr).map (mapPtr change) := by
  apply List.ext_getElem
  · simp [childPtrs, mapPtr, children_mapEntries]
  · intro i bound bound'
    simp [childPtrs, mapPtr, children_mapEntries]

/-! ## Lookups -/

variable {change} (keepsTitles : ∀ fields, (change fields).title = fields.title)
variable (toLowercase : Str → Str)

include keepsTitles in
theorem titleMatches_mapPtr (ptr : NodePtr) (target : Str) :
    titleMatches toLowercase (mapPtr change ptr) target = titleMatches toLowercase ptr target := by
  rcases ptr with ⟨address, node⟩
  cases node with
  | group name children => rfl
  | entry fields =>
      rw [titleMatches, titleMatches, mapPtr, mapEntries, Node.getTitle, Node.getTitle,
        keepsTitles]

/-- A filter that does not see the change keeps the changed nodes. -/
theorem filter_childPtrs_mapPtr {keep : NodePtr → Bool}
    (unseen : ∀ child, keep (mapPtr change child) = keep child) (ptr : NodePtr) :
    (childPtrs (mapPtr change ptr)).filter keep =
      ((childPtrs ptr).filter keep).map (mapPtr change) := by
  rw [childPtrs_mapPtr, List.filter_map]
  congr 2
  funext child
  exact unseen child

include keepsTitles in
theorem groupCandidates_mapPtr (ptr : NodePtr) (segment : Str) :
    groupCandidates toLowercase (mapPtr change ptr) segment =
      (groupCandidates toLowercase ptr segment).map (mapPtr change) := by
  apply filter_childPtrs_mapPtr
  intro child
  rw [titleMatches_mapPtr keepsTitles, nodeIsGroup, mapPtr, isGroup_mapEntries, nodeIsGroup]

include keepsTitles in
theorem matchingEntries_mapPtr (ptr : NodePtr) (title : Str) :
    matchingEntries toLowercase (mapPtr change ptr) title =
      (matchingEntries toLowercase ptr title).map (mapPtr change) := by
  rw [matchingEntries, matchingEntries, groupGetChildren_getD, groupGetChildren_getD]
  apply filter_childPtrs_mapPtr
  intro child
  rw [titleMatches_mapPtr keepsTitles, nodeIsEntry, mapPtr, isEntry_mapEntries, nodeIsEntry]

include keepsTitles in
/-- The changed database has the changed matches. -/
theorem firstMatches_mapDatabase (db : KpDatabase) (parsed : ParsedPath) :
    firstMatches toLowercase (mapDatabase change db) parsed =
      (firstMatches toLowercase db parsed).map (mapPtr change) := by
  apply firstMatches_rel (R := fun changed ptr => changed = mapPtr change ptr)
    (P := fun changed found => changed = found.map (mapPtr change)) toLowercase
  · rintro changed ptr segment rfl
    rw [groupCandidates_mapPtr keepsTitles, List.forall₂_map_left_iff]
    exact List.forall₂_same.mpr fun _ _ => rfl
  · rintro changed ptr title rfl
    exact matchingEntries_mapPtr keepsTitles toLowercase ptr title
  · rfl
  · rfl

theorem outcome_map (path : Str) (found : List NodePtr) :
    outcome path (found.map (mapPtr change)) = (outcome path found).map (mapPtr change) := by
  rcases found with _ | ⟨node, _ | ⟨next, rest⟩⟩ <;> rfl

include keepsTitles in
/-- The changed database locates the changed node, or fails alike. -/
theorem locate_mapDatabase (db : KpDatabase) (path : Str) :
    locate toLowercase (mapDatabase change db) path =
      (locate toLowercase db path).map (mapPtr change) := by
  cases accepted : parse toLowercase path with
  | error error =>
      rw [locate_of_parse_error toLowercase _ accepted,
        locate_of_parse_error toLowercase _ accepted]
      rfl
  | ok parsed =>
      rw [locate_eq_outcome toLowercase _ accepted, locate_eq_outcome toLowercase _ accepted,
        firstMatches_mapDatabase keepsTitles, outcome_map]

/-- The fields that the crate exposes. -/
def exposed (fields : KpEntry) : Entry where
  username := fields.username
  password := fields.password
  url := fields.url
  notes := fields.notes

include keepsTitles in
/-- A lookup finds the changed fields of an entry, or fails alike. -/
theorem lookup_mapDatabase (db : KpDatabase) (path : Str) :
    (∃ error, lookup toLowercase db path = .error error ∧
        lookup toLowercase (mapDatabase change db) path = .error error) ∨
      ∃ fields, lookup toLowercase db path = .ok (exposed fields) ∧
        lookup toLowercase (mapDatabase change db) path = .ok (exposed (change fields)) := by
  rw [lookup_eq_map, lookup_eq_map, locate_mapDatabase keepsTitles]
  cases located : locate toLowercase db path with
  | error error => exact Or.inl ⟨error, rfl, rfl⟩
  | ok node =>
      right
      rcases node with ⟨address, node⟩
      obtain ⟨_, _, _, _, _, titled, _⟩ := located_spec located
      cases node with
      | group name children => cases titled.1
      | entry fields => exact ⟨fields, rfl, rfl⟩

end KdbxCredentials.Lookup
