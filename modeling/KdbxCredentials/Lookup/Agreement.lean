import KdbxCredentials.CSharp.Database
import KdbxCredentials.Descent.Simulation
import KdbxCredentials.Rust.Lookup

/-!
# The two lookups agree

The C# tree of a Rust tree splits every child list into its groups and its
entries.  The two parsers classify every path alike; the two walks then descend
in step, through a group and its image, and end at lists of matches that pair
the entries with their images.  The two comparisons are only assumed to agree
on the names of the database and the segments of the path.
-/

namespace KdbxCredentials.Lookup

open KdbxCredentials.Text
open KdbxCredentials.Descent
open KdbxCredentials.Rust
open KdbxCredentials.CSharp (PwGroup PwEntry ProtectedStringDictionary Thrown
  equalsOrdinalIgnoreCase equalsOrdinalIgnoreCase_nil)

/-! ## The C# tree of a Rust tree -/

/-- The present fields of an entry, by their KeePass names. -/
def toStrings (fields : KpEntry) : ProtectedStringDictionary where
  get key :=
    if key = CSharp.titleField then fields.title
    else if key = CSharp.userNameField then fields.username
    else if key = CSharp.passwordField then fields.password
    else if key = CSharp.urlField then fields.url
    else if key = CSharp.notesField then fields.notes
    else none

def toPwEntry : Node → Option PwEntry
  | .group _ _ => none
  | .entry fields => some ⟨toStrings fields⟩

mutual

/-- The image of a group; an absent name becomes the empty one. -/
def toPwGroup : Node → Option PwGroup
  | .group name children =>
      some
        { name := name.getD []
          groups := toPwGroups children
          entries := children.filterMap toPwEntry }
  | .entry _ => none

/-- The images of the groups among the children of a group, in order. -/
def toPwGroups : List Node → List PwGroup
  | [] => []
  | node :: rest =>
      match toPwGroup node with
      | some group => group :: toPwGroups rest
      | none => toPwGroups rest

end

theorem toPwGroups_eq_filterMap (children : List Node) :
    toPwGroups children = children.filterMap toPwGroup := by
  induction children with
  | nil => rw [toPwGroups, List.filterMap_nil]
  | cons node rest ih => cases image : toPwGroup node <;> simp [toPwGroups, image, ih]

/-- The image of the root group, as an open database. -/
def toDatabase (db : KpDatabase) : CSharp.Database where
  rootGroup := (toPwGroup db.root).getD ⟨[], [], []⟩

/-- A name of a group or title of an entry in the tree below a node. -/
inductive StoredName : Node → Str → Prop
  | here {node : Node} {name : Str} : node.getTitle = some name → StoredName node name
  | child {node child : Node} {name : Str} :
      child ∈ node.children → StoredName child name → StoredName node name

/-! ## Outcomes on the two sides -/

/-- Entries with the same four optional fields. -/
structure SameEntry (entry : Rust.Entry) (entry' : CSharp.Entry) : Prop where
  username : entry.username = entry'.username
  password : entry.password = entry'.password
  url : entry.url = entry'.url
  notes : entry.notes = entry'.notes

/-- Failures of one kind, with the same payload. -/
inductive SameFailure : KdbxError → Thrown → Prop
  | invalidPath (path : Str) (reason : String) :
      SameFailure (.invalidPath path reason) (.kdbx (.invalidPath path reason))
  | entryNotFound (path : Str) : SameFailure (.entryNotFound path) (.kdbx (.entryNotFound path))
  | ambiguousEntry (path : Str) :
      SameFailure (.ambiguousEntry path) (.kdbx (.ambiguousEntry path))

inductive SameOutcome : Except KdbxError Rust.Entry → Except Thrown CSharp.Entry → Prop
  | ok {entry : Rust.Entry} {entry' : CSharp.Entry} :
      SameEntry entry entry' → SameOutcome (.ok entry) (.ok entry')
  | error {error : KdbxError} {thrown : Thrown} :
      SameFailure error thrown → SameOutcome (.error error) (.error thrown)

variable (toLowercase : Str → Str) (upper : Char → Char)

/-- The comparisons of the two sides agree on every segment of the path, which may be
malformed, with the name of the root and with every name that is stored, whether or not
a lookup gets to compare them. -/
structure ComparisonsAgree (db : KpDatabase) (path : Str) : Prop where
  root : ∀ segment ∈ segments path,
    eqIgnoreAsciiCase segment rootName = equalsOrdinalIgnoreCase upper segment rootName
  name : ∀ stored, StoredName db.root stored → ∀ segment ∈ segments path,
    (toLowercase stored == toLowercase segment) = equalsOrdinalIgnoreCase upper stored segment

/-! ## The parsers -/

theorem isWhiteSpace_eq (c : Char) : CSharp.isWhiteSpace c = isWhitespace c := by
  rw [Bool.eq_iff_iff]
  simp only [CSharp.isWhiteSpace, isWhitespace, Bool.or_eq_true, Bool.and_eq_true, beq_iff_eq,
    decide_eq_true_eq]
  omega

theorem trim_eq (s : Str) : CSharp.trim s = Rust.trim s := by
  rw [CSharp.trim, Rust.trim, funext isWhiteSpace_eq]

theorem segments_eq (path : Str) : CSharp.segments path = segments path := by
  rw [CSharp.segments, segments, funext trim_eq]

theorem isNullOrWhiteSpace_eq (s : Str) : CSharp.isNullOrWhiteSpace s = (Rust.trim s).isEmpty := by
  rw [Bool.eq_iff_iff, List.isEmpty_iff, Rust.trim, trim_eq_nil_iff, CSharp.isNullOrWhiteSpace,
    List.all_eq_true]
  simp only [isWhiteSpace_eq]

/-- The parsers reject a path for the same reason, or both split it into the
same segments, which the Rust parser then lowercases. -/
theorem parse_cases {path : Str}
    (root : ∀ segment ∈ segments path,
      eqIgnoreAsciiCase segment rootName = equalsOrdinalIgnoreCase upper segment rootName) :
    (∃ reason, Rust.parse toLowercase path = .error (.invalidPath path reason) ∧
        CSharp.parse upper path = .error (.invalidPath path reason)) ∨
      ∃ groups title, Rust.parse toLowercase path =
          .ok ⟨groups.map toLowercase, toLowercase title⟩ ∧
        CSharp.parse upper path = .ok ⟨groups, title⟩ ∧
        ∀ segment ∈ groups ++ [title], segment ∈ segments path ∧ segment ≠ [] := by
  simp only [Rust.parse, CSharp.parse, isNullOrWhiteSpace_eq, segments_eq]
  by_cases blank : (Rust.trim path).isEmpty = true
  · simp only [if_pos blank]
    exact Or.inl ⟨_, rfl, rfl⟩
  · by_cases empty : (segments path).any List.isEmpty = true
    · simp only [if_neg blank, if_pos empty]
      exact Or.inl ⟨_, rfl, rfl⟩
    · simp only [if_neg blank, if_neg empty]
      have nonempty : ∀ segment ∈ segments path, segment ≠ [] := by
        intro segment member segment_eq
        apply empty
        exact List.any_eq_true.mpr ⟨segment, member, by simp [segment_eq]⟩
      rcases split : segments path with _ | ⟨first, _ | ⟨second, rest⟩⟩
      · exact Or.inl ⟨_, rfl, rfl⟩
      · exact Or.inl ⟨_, rfl, rfl⟩
      · have sameRoot := root first (by rw [split]; exact List.mem_cons_self)
        rw [rootName] at sameRoot
        dsimp only
        rw [rootName, sameRoot]
        by_cases isRoot : equalsOrdinalIgnoreCase upper first "root".toList = true
        · simp only [if_pos isRoot]
          exact Or.inl ⟨_, rfl, rfl⟩
        · simp only [if_neg isRoot]
          right
          have rejoin : (first :: second :: rest).dropLast ++
              [(second :: rest).getLast (List.cons_ne_nil second rest)] = segments path := by
            rw [split, List.dropLast_cons_cons, List.cons_append, List.dropLast_append_getLast]
          have spec : ∀ segment ∈ (first :: second :: rest).dropLast ++
              [(second :: rest).getLast (List.cons_ne_nil second rest)],
              segment ∈ first :: second :: rest ∧ segment ≠ [] := by
            intro segment member
            rw [rejoin] at member
            rw [← split]
            exact ⟨member, nonempty segment member⟩
          exact ⟨_, _, rfl, rfl, spec⟩

/-! ## The walks -/

/-- A group of the database and its image. -/
structure Converted (db : KpDatabase) (ptr : NodePtr) (group : PwGroup) : Prop where
  image : toPwGroup ptr.node = some group
  stored : ∀ name, StoredName ptr.node name → StoredName db.root name

/-- A lowercased segment of the path and the segment itself. -/
structure SameSegment (path : Str) (target segment : Str) : Prop where
  lowercased : target = toLowercase segment
  member : segment ∈ segments path
  nonempty : segment ≠ []

variable {toLowercase upper} {db : KpDatabase} {path : Str}

/-- Rust compares the title of a node as C# compares its name, read as the empty
string when it is absent. -/
theorem titleMatches_eq (agree : ComparisonsAgree toLowercase upper db path) {ptr : NodePtr}
    (stored : ∀ name, StoredName ptr.node name → StoredName db.root name)
    {target segment : Str} (same : SameSegment toLowercase path target segment) :
    titleMatches toLowercase ptr target =
      equalsOrdinalIgnoreCase upper (ptr.node.getTitle.getD []) segment := by
  rw [titleMatches, same.lowercased]
  cases found : ptr.node.getTitle with
  | none => exact (equalsOrdinalIgnoreCase_nil upper same.nonempty).symm
  | some name => exact agree.name name (stored name (.here found)) segment same.member

theorem stored_of_mem_childPtrs {ptr child : NodePtr} (member : child ∈ childPtrs ptr)
    (stored : ∀ name, StoredName ptr.node name → StoredName db.root name) :
    ∀ name, StoredName child.node name → StoredName db.root name := by
  intro name storedName
  apply stored name
  apply StoredName.child _ storedName
  rw [← map_node_childPtrs]
  exact List.mem_map_of_mem member

/-- The group with a given image, and the children of the one among those of the
other. -/
theorem Converted.eq_group {ptr : NodePtr} {group : PwGroup} (converted : Converted db ptr group) :
    group.name = ptr.node.getTitle.getD [] ∧
      group.groups = (childPtrs ptr).filterMap (toPwGroup ∘ NodePtr.node) ∧
      group.entries = (childPtrs ptr).filterMap (toPwEntry ∘ NodePtr.node) := by
  have image := converted.image
  rw [← List.filterMap_map, ← List.filterMap_map, map_node_childPtrs]
  cases shape : ptr.node with
  | entry fields =>
      rw [shape, toPwGroup] at image
      contradiction
  | group name children =>
      rw [shape, toPwGroup] at image
      cases image
      exact ⟨rfl, toPwGroups_eq_filterMap children, rfl⟩

/-- Groups have images, and other nodes have none. -/
theorem isSome_toPwGroup (node : Node) : (toPwGroup node).isSome = node.isGroup := by
  cases node <;> simp [toPwGroup, Node.isGroup]

/-- Entries have images, and other nodes have none. -/
theorem isSome_toPwEntry (node : Node) : (toPwEntry node).isSome = node.isEntry := by
  cases node <;> rfl

/-- The title of the image of an entry. -/
theorem readSafe_titleField {node : Node} {e : PwEntry} (image : toPwEntry node = some e) :
    e.strings.readSafe CSharp.titleField = node.getTitle.getD [] := by
  cases node with
  | group name children => contradiction
  | entry fields =>
      cases image
      rfl

/-- An entry and its image have the same four fields. -/
theorem buildEntry_same {node : NodePtr} {e : PwEntry} (image : toPwEntry node.node = some e) :
    SameEntry (buildEntry node) (CSharp.buildEntry e) := by
  rcases node with ⟨address, node⟩
  cases node with
  | group name children => contradiction
  | entry fields =>
      cases image
      constructor
      · exact (CSharp.field_eq_get ⟨toStrings fields⟩ CSharp.userNameField).symm
      · exact (CSharp.field_eq_get ⟨toStrings fields⟩ CSharp.passwordField).symm
      · exact (CSharp.field_eq_get ⟨toStrings fields⟩ CSharp.urlField).symm
      · exact (CSharp.field_eq_get ⟨toStrings fields⟩ CSharp.notesField).symm

/-- Matching child groups are paired with their images. -/
theorem Converted.groupCandidates (agree : ComparisonsAgree toLowercase upper db path)
    {ptr : NodePtr} {group : PwGroup} (converted : Converted db ptr group)
    {target segment : Str} (same : SameSegment toLowercase path target segment) :
    List.Forall₂ (Converted db) (groupCandidates toLowercase ptr target)
      (CSharp.groupCandidates upper group segment) := by
  have below : ∀ child ∈ childPtrs ptr, ∀ name, StoredName child.node name →
      StoredName db.root name :=
    fun child member => stored_of_mem_childPtrs member converted.stored
  have kept : ∀ child ∈ childPtrs ptr, ∀ g, (toPwGroup ∘ NodePtr.node) child = some g →
      (nodeIsGroup child && titleMatches toLowercase child target) =
        equalsOrdinalIgnoreCase upper g.name segment := by
    intro child member g image
    have childConverted : Converted db child g := ⟨image, below child member⟩
    rw [nodeIsGroup, ← isSome_toPwGroup, childConverted.image, Option.isSome_some,
      Bool.true_and, titleMatches_eq agree childConverted.stored same, childConverted.eq_group.1]
  have dropped : ∀ child ∈ childPtrs ptr, (toPwGroup ∘ NodePtr.node) child = none →
      (nodeIsGroup child && titleMatches toLowercase child target) = false := by
    intro child member image
    change toPwGroup child.node = none at image
    rw [nodeIsGroup, ← isSome_toPwGroup, image, Option.isSome_none, Bool.false_and]
  rw [Rust.groupCandidates, CSharp.groupCandidates, converted.eq_group.2.1]
  apply (filter_filterMap_rel kept dropped).imp
  rintro child g ⟨member, image⟩
  exact ⟨image, below child member⟩

/-- Matching entries are paired with their images. -/
theorem Converted.matchingEntries (agree : ComparisonsAgree toLowercase upper db path)
    {ptr : NodePtr} {group : PwGroup} (converted : Converted db ptr group)
    {target segment : Str} (same : SameSegment toLowercase path target segment) :
    List.Forall₂ (fun node e => toPwEntry node.node = some e)
      (matchingEntries toLowercase ptr target) (CSharp.matchingEntries upper group segment) := by
  have kept : ∀ child ∈ childPtrs ptr, ∀ e, (toPwEntry ∘ NodePtr.node) child = some e →
      (nodeIsEntry child && titleMatches toLowercase child target) =
        equalsOrdinalIgnoreCase upper (e.strings.readSafe CSharp.titleField) segment := by
    intro child member e image
    change toPwEntry child.node = some e at image
    have below := stored_of_mem_childPtrs member converted.stored
    rw [nodeIsEntry, ← isSome_toPwEntry, image, Option.isSome_some, Bool.true_and,
      titleMatches_eq agree below same, readSafe_titleField image]
  have dropped : ∀ child ∈ childPtrs ptr, (toPwEntry ∘ NodePtr.node) child = none →
      (nodeIsEntry child && titleMatches toLowercase child target) = false := by
    intro child member image
    change toPwEntry child.node = none at image
    rw [nodeIsEntry, ← isSome_toPwEntry, image, Option.isSome_none, Bool.false_and]
  rw [Rust.matchingEntries, CSharp.matchingEntries, groupGetChildren_getD,
    converted.eq_group.2.2]
  exact (filter_filterMap_rel kept dropped).imp fun node e related => related.2

/-- The root group and its image. -/
theorem converted_root (db : KpDatabase) :
    Converted db db.rootPtr (toDatabase db).rootGroup := by
  constructor
  · have isGroup := db.root_isGroup
    rw [← isSome_toPwGroup] at isGroup
    rcases Option.isSome_iff_exists.mp isGroup with ⟨group, image⟩
    rw [KpDatabase.rootPtr, toDatabase, image, Option.getD_some]
  · exact fun name stored => stored

/-- The two lookups of a valid path find the same entries. -/
theorem found_rel (agree : ComparisonsAgree toLowercase upper db path) {groups : List Str}
    {title : Str}
    (segs : ∀ segment ∈ groups ++ [title], segment ∈ segments path ∧ segment ≠ []) :
    List.Forall₂ (fun node e => toPwEntry node.node = some e)
      (firstMatches toLowercase db ⟨groups.map toLowercase, toLowercase title⟩)
      ((toDatabase db).found upper ⟨groups, title⟩) := by
  have sameSegment : ∀ segment ∈ groups ++ [title],
      SameSegment toLowercase path (toLowercase segment) segment :=
    fun segment member => ⟨rfl, (segs segment member).1, (segs segment member).2⟩
  have sameGroups : List.Forall₂ (SameSegment toLowercase path)
      (groups.map toLowercase) groups := by
    rw [List.forall₂_map_left_iff]
    apply List.forall₂_same.mpr
    intro segment member
    exact sameSegment segment (List.mem_append_left [title] member)
  have walks : Option.Rel (Converted db)
      (findGroup toLowercase db.rootPtr (groups.map toLowercase))
      (CSharp.walk upper (toDatabase db).rootGroup groups) := by
    rw [findGroup_eq_descend, CSharp.walk_eq_descend]
    apply descend_rel _ (converted_root db) sameGroups
    intro ptr group target segment converted same
    exact head?_rel (converted.groupCandidates agree same)
  rw [firstMatches, CSharp.Database.found]
  generalize findGroup toLowercase db.rootPtr (groups.map toLowercase) = walk at walks ⊢
  generalize CSharp.walk upper (toDatabase db).rootGroup groups = walk' at walks ⊢
  cases walks with
  | none => exact List.Forall₂.nil
  | some converted =>
      apply converted.matchingEntries agree
      exact sameSegment title (List.mem_append_right groups List.mem_cons_self)

/-- Matches that are paired up give the same outcome. -/
theorem outcome_same {nodes : List NodePtr} {entries : List PwEntry}
    (paired : List.Forall₂ (fun node e => toPwEntry node.node = some e) nodes entries)
    (path : Str) :
    SameOutcome ((outcome path nodes).map buildEntry) (CSharp.outcome path entries) := by
  cases paired with
  | nil => exact SameOutcome.error (SameFailure.entryNotFound path)
  | cons image rest =>
      cases rest with
      | nil => exact SameOutcome.ok (buildEntry_same image)
      | cons _ _ => exact SameOutcome.error (SameFailure.ambiguousEntry path)

/-- The two lookups have the same outcome on every path. -/
theorem lookup_agrees (db : KpDatabase) (path : Str)
    (agree : ComparisonsAgree toLowercase upper db path) :
    SameOutcome (lookup toLowercase db path) ((toDatabase db).lookup upper path) := by
  rw [lookup_eq_map]
  rcases parse_cases toLowercase upper agree.root with
    ⟨reason, rejected, rejected'⟩ | ⟨groups, title, accepted, accepted', segs⟩
  · rw [locate_of_parse_error toLowercase db rejected,
      CSharp.Database.lookup_of_parse_error rfl rejected']
    exact SameOutcome.error (SameFailure.invalidPath path reason)
  · rw [locate_eq_outcome toLowercase db accepted,
      CSharp.Database.lookup_eq_outcome rfl accepted']
    exact outcome_same (found_rel agree segs) path

/-! ## An entry beside a nameless one -/

/-- A root group whose group `Web` holds the entry `Mail`, an entry without a
title and a group of the name of the entry. -/
def webWithNameless : KpDatabase where
  root := .group none
    [.entry ⟨some "stray".toList, none, none, none, none⟩,
      .group (some "Web".toList)
        [.entry ⟨none, some "nobody".toList, none, none, none⟩,
          .group (some "Mail".toList) [],
          .entry ⟨some "Mail".toList, some "me".toList, some "pw".toList, none, none⟩]]
  root_isGroup := rfl

/-- The ASCII comparisons agree on all strings. -/
theorem comparisonsAgree_ascii (db : KpDatabase) (path : Str) :
    ComparisonsAgree toAsciiLowercase Char.toUpper db path := by
  have agree : ∀ s t : Str, (toAsciiLowercase s == toAsciiLowercase t) =
      equalsOrdinalIgnoreCase Char.toUpper s t := by
    intro s t
    rw [Bool.eq_iff_iff, equalsOrdinalIgnoreCase, beq_iff_eq, beq_iff_eq]
    exact (toAsciiUppercase_eq_iff s t).symm
  constructor
  · exact fun segment _ => agree segment rootName
  · exact fun stored _ segment _ => agree stored segment

theorem lookup_agrees_webWithNameless :
    SameOutcome (lookup toAsciiLowercase webWithNameless "web/ mail".toList)
      ((toDatabase webWithNameless).lookup Char.toUpper "web/ mail".toList) :=
  lookup_agrees webWithNameless "web/ mail".toList
    (comparisonsAgree_ascii webWithNameless "web/ mail".toList)

end KdbxCredentials.Lookup
