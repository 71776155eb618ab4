import KdbxCredentials.Text.Utf8
import Mathlib.Data.List.Nodup

/-!
# The KeePass tree

The part of `keepass-ng` that the crate reads: a database is a tree of groups
and entries, each group having one ordered list of children of either kind.
`NodePtr` is a shared pointer, so two nodes with equal contents are still
different nodes; a pointer is the address of its node below the root, as the
child positions on the way down, together with the node found there.
-/

namespace KdbxCredentials.Rust

open KdbxCredentials.Text

universe u

/-- The fields of a KeePass entry that the crate reads. -/
structure KpEntry where
  title : Option Str
  username : Option Str
  password : Option Str
  url : Option Str
  notes : Option Str
  deriving DecidableEq, Repr

/-- A node of the KeePass tree. -/
inductive Node
  | group (name : Option Str) (children : List Node)
  | entry (fields : KpEntry)

namespace Node

/-- `Node::get_title`: the name of a group, the `Title` field of an entry. -/
def getTitle : Node → Option Str
  | group name _ => name
  | entry fields => fields.title

def isGroup : Node → Bool
  | group _ _ => true
  | entry _ => false

def isEntry : Node → Bool
  | group _ _ => false
  | entry _ => true

/-- The direct children; an entry has none. -/
def children : Node → List Node
  | group _ children => children
  | entry _ => []

end Node

/-- A decrypted database; its root node is always a group. -/
structure KpDatabase where
  root : Node
  root_isGroup : root.isGroup = true

/-- A shared pointer to a node. -/
structure NodePtr where
  address : List Nat
  node : Node

/-- `NodePtr::from(&db.root)`. -/
def KpDatabase.rootPtr (db : KpDatabase) : NodePtr :=
  ⟨[], db.root⟩

/-- `group_get_children`: the children of a group, and nothing for an entry. -/
def groupGetChildren (ptr : NodePtr) : Option (List NodePtr) :=
  match ptr.node with
  | .group _ children => some (children.mapIdx fun i child => ⟨ptr.address ++ [i], child⟩)
  | .entry _ => none

def nodeIsGroup (ptr : NodePtr) : Bool :=
  ptr.node.isGroup

def nodeIsEntry (ptr : NodePtr) : Bool :=
  ptr.node.isEntry

/-- `with_node::<Entry>`: run `f` on an entry, and on nothing else. -/
def withEntry {α : Type u} (ptr : NodePtr) (f : KpEntry → α) : Option α :=
  match ptr.node with
  | .group _ _ => none
  | .entry fields => some (f fields)

/-! ## Pointers to children -/

/-- The pointers to the children of a node, empty for an entry. -/
def childPtrs (ptr : NodePtr) : List NodePtr :=
  ptr.node.children.mapIdx fun i child => ⟨ptr.address ++ [i], child⟩

theorem groupGetChildren_of_isGroup {ptr : NodePtr} (isGroup : ptr.node.isGroup = true) :
    groupGetChildren ptr = some (childPtrs ptr) := by
  rcases ptr with ⟨address, node⟩
  cases node with
  | group name children => rfl
  | entry fields => contradiction

@[simp]
theorem groupGetChildren_getD (ptr : NodePtr) :
    (groupGetChildren ptr).getD [] = childPtrs ptr := by
  rcases ptr with ⟨address, node⟩
  cases node <;> rfl

/-- A child pointer extends its parent's address by the position of the child. -/
theorem mem_childPtrs_iff {ptr child : NodePtr} :
    child ∈ childPtrs ptr ↔
      ∃ i, ptr.node.children[i]? = some child.node ∧ child.address = ptr.address ++ [i] := by
  constructor
  · intro member
    rcases List.mem_mapIdx.mp member with ⟨i, bound, rfl⟩
    exact ⟨i, List.getElem?_eq_getElem bound, rfl⟩
  · rintro ⟨i, found, address_eq⟩
    rcases List.getElem?_eq_some_iff.mp found with ⟨bound, node_eq⟩
    apply List.mem_mapIdx.mpr
    rcases child with ⟨address, node⟩
    have child_eq : (⟨ptr.address ++ [i], ptr.node.children[i]⟩ : NodePtr) = ⟨address, node⟩ := by
      rw [NodePtr.mk.injEq]
      exact ⟨address_eq.symm, node_eq⟩
    exact ⟨i, bound, child_eq⟩

theorem map_node_childPtrs (ptr : NodePtr) :
    (childPtrs ptr).map NodePtr.node = ptr.node.children := by
  apply List.ext_getElem
  · simp [childPtrs]
  · simp [childPtrs]

/-- The children of one node are different nodes. -/
theorem nodup_childPtrs (ptr : NodePtr) : (childPtrs ptr).Nodup := by
  rw [List.nodup_iff_injective_getElem]
  intro i j equal
  have addresses := congrArg NodePtr.address equal
  simp only [childPtrs, List.getElem_mapIdx, List.append_cancel_left_eq, List.cons.injEq,
    and_true] at addresses
  exact Fin.ext addresses

end KdbxCredentials.Rust
