import KdbxCredentials.Rust.Lookup

/-!
# The order of entries

A tree is rearranged by putting the entries of a group, at every depth, in
another order and elsewhere between its child groups, which keep their own
order.  The walk follows child groups alone, and the matching entries are the
same up to their order; a lookup looks at their order only when there is one of
them.
-/

namespace KdbxCredentials.Lookup

open KdbxCredentials.Text
open KdbxCredentials.Rust

/-- Trees that differ in the order of the entries among the children of each
group and in their places between the child groups. -/
inductive Rearranged : Node → Node → Prop
  | group {name : Option Str} {children children' : List Node} :
      List.Forall₂ Rearranged (children.filter Node.isGroup) (children'.filter Node.isGroup) →
      (children.filter Node.isEntry).Perm (children'.filter Node.isEntry) →
      Rearranged (.group name children) (.group name children')
  | entry (fields : KpEntry) : Rearranged (.entry fields) (.entry fields)

namespace Rearranged

theorem refl (node : Node) : Rearranged node node := by
  cases node with
  | entry fields => exact Rearranged.entry fields
  | group name children =>
      apply Rearranged.group _ (List.Perm.refl _)
      rw [List.forall₂_same]
      intro child member
      have smaller := List.sizeOf_lt_of_mem (List.mem_of_mem_filter member)
      exact refl child
termination_by sizeOf node
decreasing_by
  subst_vars
  simp only [Node.group.sizeOf_spec]
  omega

/-- Permuting the children of a group is a rearrangement when the child groups
keep their order. -/
theorem of_perm {name : Option Str} {children children' : List Node}
    (permuted : children.Perm children')
    (groups : children.filter Node.isGroup = children'.filter Node.isGroup) :
    Rearranged (.group name children) (.group name children') := by
  apply Rearranged.group
  · rw [groups, List.forall₂_same]
    exact fun child _ => refl child
  · exact permuted.filter Node.isEntry

variable {node node' : Node}

theorem getTitle_eq (same : Rearranged node node') : node.getTitle = node'.getTitle := by
  cases same <;> rfl

theorem groups (same : Rearranged node node') :
    List.Forall₂ Rearranged (node.children.filter Node.isGroup)
      (node'.children.filter Node.isGroup) := by
  cases same with
  | group groupsSame _ => exact groupsSame
  | entry fields => exact List.Forall₂.nil

theorem entries (same : Rearranged node node') :
    (node.children.filter Node.isEntry).Perm (node'.children.filter Node.isEntry) := by
  cases same with
  | group _ permuted => exact permuted
  | entry fields => exact List.Perm.refl _

end Rearranged

variable (toLowercase : Str → Str)

/-- The title test of `title_matches`, on the node alone. -/
def hasTitle (target : Str) (node : Node) : Bool :=
  (node.getTitle.map fun title => toLowercase title == target).getD false

/-- The nodes of the matching child groups. -/
theorem map_node_groupCandidates (ptr : NodePtr) (segment : Str) :
    (groupCandidates toLowercase ptr segment).map NodePtr.node =
      (ptr.node.children.filter Node.isGroup).filter (hasTitle toLowercase segment) := by
  rw [← map_node_childPtrs, List.filter_filter, List.filter_map, groupCandidates]
  congr 2
  funext child
  exact Bool.and_comm _ _

/-- The nodes of the matching entries. -/
theorem map_node_matchingEntries (ptr : NodePtr) (title : Str) :
    (matchingEntries toLowercase ptr title).map NodePtr.node =
      (ptr.node.children.filter Node.isEntry).filter (hasTitle toLowercase title) := by
  rw [← map_node_childPtrs, List.filter_filter, List.filter_map, matchingEntries,
    groupGetChildren_getD]
  congr 2
  funext child
  exact Bool.and_comm _ _

/-! ## The walk and the matches -/

/-- Pointers to nodes that are rearrangements of each other, wherever they lie. -/
def RearrangedAt (ptr ptr' : NodePtr) : Prop :=
  Rearranged ptr.node ptr'.node

theorem RearrangedAt.groupCandidates {ptr ptr' : NodePtr} (same : RearrangedAt ptr ptr')
    (segment : Str) :
    List.Forall₂ RearrangedAt (Rust.groupCandidates toLowercase ptr segment)
      (Rust.groupCandidates toLowercase ptr' segment) := by
  have nodes : List.Forall₂ Rearranged
      ((Rust.groupCandidates toLowercase ptr segment).map NodePtr.node)
      ((Rust.groupCandidates toLowercase ptr' segment).map NodePtr.node) := by
    rw [map_node_groupCandidates, map_node_groupCandidates]
    apply List.rel_filter _ same.groups
    intro child child' sameChild
    simp only [hasTitle, sameChild.getTitle_eq]
  rw [List.forall₂_map_left_iff, List.forall₂_map_right_iff] at nodes
  exact nodes

theorem RearrangedAt.matchingEntries {ptr ptr' : NodePtr} (same : RearrangedAt ptr ptr')
    (title : Str) :
    ((Rust.matchingEntries toLowercase ptr title).map NodePtr.node).Perm
      ((Rust.matchingEntries toLowercase ptr' title).map NodePtr.node) := by
  rw [map_node_matchingEntries, map_node_matchingEntries]
  exact same.entries.filter _

theorem firstMatches_perm {db db' : KpDatabase} (same : Rearranged db.root db'.root)
    (parsed : ParsedPath) :
    ((firstMatches toLowercase db parsed).map NodePtr.node).Perm
      ((firstMatches toLowercase db' parsed).map NodePtr.node) := by
  have start : RearrangedAt db.rootPtr db'.rootPtr := same
  apply firstMatches_rel toLowercase (P := fun found found' =>
    (found.map NodePtr.node).Perm (found'.map NodePtr.node)) _ _ List.Perm.nil start
  · exact fun segment samePtr => samePtr.groupCandidates toLowercase segment
  · exact fun title samePtr => samePtr.matchingEntries toLowercase title

/-! ## The outcome -/

/-- An entry is built from the fields of the node, wherever it lies. -/
theorem buildEntry_congr {ptr ptr' : NodePtr} (same : ptr.node = ptr'.node) :
    buildEntry ptr = buildEntry ptr' := by
  rw [buildEntry, buildEntry, withEntry, withEntry, same]

/-- None, one or several matches: the order of several does not matter. -/
theorem outcome_perm {found found' : List NodePtr}
    (permuted : (found.map NodePtr.node).Perm (found'.map NodePtr.node)) (path : Str) :
    (outcome path found).map buildEntry = (outcome path found').map buildEntry := by
  have lengths := permuted.length_eq
  rw [List.length_map, List.length_map] at lengths
  match found, found', lengths with
  | [], [], _ => rfl
  | [node], [node'], _ =>
      have same : node.node = node'.node := by simpa using permuted
      change Except.ok (buildEntry node) = Except.ok (buildEntry node')
      rw [buildEntry_congr same]
  | _ :: _ :: _, _ :: _ :: _, _ => rfl

/-- A lookup gives the same outcome on every rearrangement of a database. -/
theorem lookup_rearranged (db db' : KpDatabase) (same : Rearranged db.root db'.root)
    (path : Str) : lookup toLowercase db path = lookup toLowercase db' path := by
  rw [lookup_eq_map, lookup_eq_map]
  cases accepted : parse toLowercase path with
  | error error =>
      rw [locate_of_parse_error toLowercase db accepted,
        locate_of_parse_error toLowercase db' accepted]
  | ok parsed =>
      rw [locate_eq_outcome toLowercase db accepted, locate_eq_outcome toLowercase db' accepted]
      exact outcome_perm (firstMatches_perm toLowercase same parsed) path

/-! ## An entry moved past a group -/

/-- An entry `mail` of the group `web`. -/
def mail : Node :=
  .entry ⟨some "mail".toList, some "me".toList, none, none, none⟩

/-- The group `web` with a group `mail` before its entry `mail`. -/
def groupFirst : KpDatabase where
  root := .group none [.group (some "web".toList) [.group (some "mail".toList) [], mail]]
  root_isGroup := rfl

/-- The group `web` with its entry `mail` before a group `mail`. -/
def entryFirst : KpDatabase where
  root := .group none [.group (some "web".toList) [mail, .group (some "mail".toList) []]]
  root_isGroup := rfl

theorem lookup_rearranged_groupFirst :
    lookup toAsciiLowercase groupFirst "web/mail".toList =
      lookup toAsciiLowercase entryFirst "web/mail".toList := by
  apply lookup_rearranged
  apply Rearranged.group
  · exact List.Forall₂.cons (Rearranged.of_perm (List.Perm.swap _ _ _) rfl) List.Forall₂.nil
  · exact List.Perm.nil

end KdbxCredentials.Lookup
