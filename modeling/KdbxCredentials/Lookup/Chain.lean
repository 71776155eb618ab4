import KdbxCredentials.Rust.Lookup

/-!
# Chains of groups

A chain of groups leads from a group down to one of its descendants, one child
group at a time.  A path of segments is spelled by every chain whose lowercased
names are its segments, and walked along the chain that takes the first child
group of each name.  The nodes of a chain are determined by the node it ends
at, whatever names they carry.
-/

namespace KdbxCredentials.Lookup

open KdbxCredentials.Text
open KdbxCredentials.Descent
open KdbxCredentials.Rust

variable (toLowercase : Str → Str)

/-- A node has a name or title, and its lowercase form is `target`. -/
def Spells (target : Str) (ptr : NodePtr) : Prop :=
  ∃ name, ptr.node.getTitle = some name ∧ toLowercase name = target

/-- A node is a group whose lowercased name is `segment`. -/
def NamedGroup (segment : Str) (ptr : NodePtr) : Prop :=
  ptr.node.isGroup = true ∧ Spells toLowercase segment ptr

/-- A node is an entry whose lowercased title is `title`. -/
def TitledEntry (title : Str) (ptr : NodePtr) : Prop :=
  ptr.node.isEntry = true ∧ Spells toLowercase title ptr

/-- `target` ends a chain of child groups spelling `segments`. -/
inductive GroupChain : NodePtr → List Str → NodePtr → Prop
  | here (group : NodePtr) : GroupChain group [] group
  | step {group child target : NodePtr} {segment : Str} {rest : List Str} :
      child ∈ childPtrs group → NamedGroup toLowercase segment child →
      GroupChain child rest target → GroupChain group (segment :: rest) target

/-- `target` ends the chain that takes the first child group of each name. -/
inductive FirstChain : NodePtr → List Str → NodePtr → Prop
  | here (group : NodePtr) : FirstChain group [] group
  | step {group child target : NodePtr} {segment : Str} {rest : List Str}
      {before after : List NodePtr} :
      childPtrs group = before ++ child :: after → NamedGroup toLowercase segment child →
      (∀ other ∈ before, ¬NamedGroup toLowercase segment other) →
      FirstChain child rest target → FirstChain group (segment :: rest) target

/-! ## Chains are descents -/

theorem namedGroup_iff {segment : Str} {ptr : NodePtr} :
    NamedGroup toLowercase segment ptr ↔
      (nodeIsGroup ptr && titleMatches toLowercase ptr segment) = true := by
  rw [NamedGroup, Spells, Bool.and_eq_true, titleMatches_iff, nodeIsGroup]

theorem firstChain_of_firstReaches {group target : NodePtr} {segs : List Str}
    (reached : FirstReaches (groupCandidates toLowercase) group segs target) :
    FirstChain toLowercase group segs target := by
  induction reached with
  | here group => exact FirstChain.here group
  | step first _ ih =>
      rw [groupCandidates, List.head?_filter, List.find?_eq_some_iff_append] at first
      rcases first with ⟨named, before, after, children_eq, earlier⟩
      apply FirstChain.step children_eq ((namedGroup_iff toLowercase).mpr named) _ ih
      intro other member namedOther
      have unnamed := earlier other member
      rw [(namedGroup_iff toLowercase).mp namedOther] at unnamed
      contradiction

theorem FirstChain.firstReaches {group target : NodePtr} {segs : List Str}
    (chain : FirstChain toLowercase group segs target) :
    FirstReaches (groupCandidates toLowercase) group segs target := by
  induction chain with
  | here group => exact FirstReaches.here group
  | step children_eq named earlier _ ih =>
      apply FirstReaches.step _ ih
      rw [groupCandidates, List.head?_filter, List.find?_eq_some_iff_append]
      refine ⟨(namedGroup_iff toLowercase).mp named, _, _, children_eq, ?_⟩
      intro other member
      have unnamed := earlier other member
      rw [namedGroup_iff, Bool.not_eq_true] at unnamed
      simp only [unnamed, Bool.not_false]

/-- The walk of `find_group` ends at the end of the first chain. -/
theorem findGroup_eq_some_iff (root : NodePtr) (segs : List Str) (group : NodePtr) :
    findGroup toLowercase root segs = some group ↔ FirstChain toLowercase root segs group := by
  rw [findGroup_eq_descend, descend_eq_some_iff]
  exact ⟨firstChain_of_firstReaches toLowercase, FirstChain.firstReaches toLowercase⟩

theorem groupChain_of_reaches {group target : NodePtr} {segs : List Str}
    (reached : Reaches (groupCandidates toLowercase) group segs target) :
    GroupChain toLowercase group segs target := by
  induction reached with
  | here group => exact GroupChain.here group
  | step candidate _ ih =>
      rw [mem_groupCandidates_iff, titleMatches_iff] at candidate
      exact GroupChain.step candidate.1 candidate.2 ih

variable {toLowercase}

/-- A chain of first child groups is a chain of child groups. -/
theorem FirstChain.groupChain {group target : NodePtr} {segs : List Str}
    (chain : FirstChain toLowercase group segs target) :
    GroupChain toLowercase group segs target :=
  groupChain_of_reaches toLowercase (chain.firstReaches toLowercase).reaches

/-- The chain of first child groups has one end. -/
theorem FirstChain.end_unique {group target target' : NodePtr} {segs : List Str}
    (left : FirstChain toLowercase group segs target)
    (right : FirstChain toLowercase group segs target') : target = target' :=
  (left.firstReaches toLowercase).unique (right.firstReaches toLowercase)

/-! ## The nodes of a chain -/

/-- `groups` are the nodes after `root` on the way down to the last of them. -/
inductive GroupPath : NodePtr → List NodePtr → NodePtr → Prop
  | here (group : NodePtr) : GroupPath group [] group
  | step {group child target : NodePtr} {rest : List NodePtr} :
      child ∈ childPtrs group → child.node.isGroup = true → GroupPath child rest target →
      GroupPath group (child :: rest) target

/-- A node below a chain has its positions after the address of the start. -/
theorem GroupPath.address_eq {root group e : NodePtr} {groups : List NodePtr}
    (path : GroupPath root groups group) (member : e ∈ childPtrs group) :
    ∃ positions, e.address = root.address ++ positions ∧
      positions.length = groups.length + 1 := by
  induction path with
  | here group =>
      obtain ⟨i, _, address_eq⟩ := mem_childPtrs_iff.mp member
      exact ⟨[i], address_eq, rfl⟩
  | step childMem _ _ ih =>
      obtain ⟨positions, address_eq, length_eq⟩ := ih member
      obtain ⟨i, _, child_eq⟩ := mem_childPtrs_iff.mp childMem
      refine ⟨i :: positions, ?_, by rw [List.length_cons, length_eq, List.length_cons]⟩
      rw [address_eq, child_eq, List.append_assoc, List.singleton_append]

/-- Children of one node with a common descendant address are the same child. -/
theorem childPtrs_eq_of_address {parent child child' : NodePtr} {below below' : List Nat}
    (member : child ∈ childPtrs parent) (member' : child' ∈ childPtrs parent)
    (common : child.address ++ below = child'.address ++ below') : child = child' := by
  obtain ⟨i, node_eq, address_eq⟩ := mem_childPtrs_iff.mp member
  obtain ⟨j, node_eq', address_eq'⟩ := mem_childPtrs_iff.mp member'
  rw [address_eq, address_eq', List.append_assoc, List.append_assoc,
    List.append_cancel_left_eq] at common
  have same : i = j := (List.cons.inj common).1
  subst j
  rcases child with ⟨address, node⟩
  rcases child' with ⟨address', node'⟩
  have nodes : node = node' := Option.some.inj (node_eq.symm.trans node_eq')
  have addresses : address = address' := address_eq.trans address_eq'.symm
  rw [nodes, addresses]

/-- The chain above a node is unique: a node lies in one place of the tree. -/
theorem GroupPath.unique {root group group' e : NodePtr} {groups groups' : List NodePtr}
    (left : GroupPath root groups group) (right : GroupPath root groups' group')
    (member : e ∈ childPtrs group) (member' : e ∈ childPtrs group') :
    groups = groups' ∧ group = group' := by
  have lengths : groups.length = groups'.length := by
    obtain ⟨positions, address_eq, length_eq⟩ := left.address_eq member
    obtain ⟨positions', address_eq', length_eq'⟩ := right.address_eq member'
    have same : positions = positions' :=
      List.append_cancel_left (address_eq.symm.trans address_eq')
    rw [same, length_eq'] at length_eq
    exact (Nat.succ.inj length_eq).symm
  induction left generalizing groups' with
  | here group =>
      cases right with
      | here group => exact ⟨rfl, rfl⟩
      | step _ _ _ => contradiction
  | step childMem _ leftRest ih =>
      cases right with
      | here group => contradiction
      | step childMem' _ rightRest =>
          obtain ⟨below, address_eq, _⟩ := leftRest.address_eq member
          obtain ⟨below', address_eq', _⟩ := rightRest.address_eq member'
          have child_eq := childPtrs_eq_of_address childMem childMem'
            (address_eq.symm.trans address_eq')
          subst child_eq
          obtain ⟨rfl, rfl⟩ := ih rightRest member (Nat.succ.inj lengths)
          exact ⟨rfl, rfl⟩

/-! ## The spelling of a chain -/

variable (toLowercase)

/-- Two nodes carry names that agree after lowercasing. -/
def SameName (left right : NodePtr) : Prop :=
  ∃ name name', left.node.getTitle = some name ∧ right.node.getTitle = some name' ∧
    toLowercase name = toLowercase name'

/-- Each group is the first child group of the one before with its own name. -/
def FirstOfName : NodePtr → List NodePtr → Prop
  | _, [] => True
  | parent, child :: rest =>
      (∃ before after, childPtrs parent = before ++ child :: after ∧
        ∀ other ∈ before, other.node.isGroup = true → ¬SameName toLowercase other child) ∧
      FirstOfName child rest

variable {toLowercase}

theorem sameName_iff_of_spells {segment : Str} {child other : NodePtr}
    (spelled : Spells toLowercase segment child) :
    SameName toLowercase other child ↔ Spells toLowercase segment other := by
  rcases spelled with ⟨name, title_eq, rfl⟩
  constructor
  · rintro ⟨other_name, name', other_eq, title_eq', same⟩
    rw [title_eq] at title_eq'
    cases title_eq'
    exact ⟨other_name, other_eq, same⟩
  · rintro ⟨other_name, other_eq, same⟩
    exact ⟨other_name, name, other_eq, title_eq, same⟩

/-- The chain of first child groups that spells a path, with its nodes. -/
theorem firstChain_iff {root target : NodePtr} {segs : List Str} :
    FirstChain toLowercase root segs target ↔
      ∃ groups, GroupPath root groups target ∧ FirstOfName toLowercase root groups ∧
        List.Forall₂ (Spells toLowercase) segs groups := by
  constructor
  · intro chain
    induction chain with
    | here group => exact ⟨[], GroupPath.here group, trivial, List.Forall₂.nil⟩
    | @step group child target segment rest before after children_eq named earlier _ ih =>
        rcases ih with ⟨groups, path, first, spelled⟩
        have member : child ∈ childPtrs group := by
          rw [children_eq]
          exact List.mem_append_right before List.mem_cons_self
        refine ⟨child :: groups, GroupPath.step member named.1 path,
          ⟨⟨before, after, children_eq, ?_⟩, first⟩, List.Forall₂.cons named.2 spelled⟩
        intro other otherMem isGroup same
        exact earlier other otherMem ⟨isGroup, (sameName_iff_of_spells named.2).mp same⟩
  · rintro ⟨groups, path, first, spelled⟩
    induction path generalizing segs with
    | here group =>
        cases spelled
        exact FirstChain.here group
    | step _ isGroup _ ih =>
        cases spelled with
        | cons childSpelled restSpelled =>
            rcases first with ⟨⟨before, after, children_eq, earlier⟩, restFirst⟩
            apply FirstChain.step children_eq ⟨isGroup, childSpelled⟩ _ (ih restFirst restSpelled)
            intro other otherMem named
            exact earlier other otherMem named.1
              ((sameName_iff_of_spells childSpelled).mpr named.2)

end KdbxCredentials.Lookup
