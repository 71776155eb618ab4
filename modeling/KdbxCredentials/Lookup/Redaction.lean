import KdbxCredentials.Rust.Lookup

/-!
# Lookups reveal no field values

Two databases of one shape differ at most in the values of the four built-in
fields.  Their lookups take the same steps, because the walk and the title
filter read names only, and then fail with the same error or select entries
with the same fields present.
-/

namespace KdbxCredentials.Lookup

open KdbxCredentials.Text
open KdbxCredentials.Rust

/-- Entries with the same title and the same built-in fields present. -/
structure SameFields (e e' : KpEntry) : Prop where
  title : e.title = e'.title
  username : e.username.isSome = e'.username.isSome
  password : e.password.isSome = e'.password.isSome
  url : e.url.isSome = e'.url.isSome
  notes : e.notes.isSome = e'.notes.isSome

/-- Trees of the same shape and names, with the same fields present. -/
inductive SameShape : Node → Node → Prop
  | group {name : Option Str} {children children' : List Node} :
      List.Forall₂ SameShape children children' →
      SameShape (.group name children) (.group name children')
  | entry {e e' : KpEntry} : SameFields e e' → SameShape (.entry e) (.entry e')

/-- Pointers to the same place of two trees of the same shape. -/
def SamePlace (ptr ptr' : NodePtr) : Prop :=
  ptr.address = ptr'.address ∧ SameShape ptr.node ptr'.node

namespace SameShape

variable {node node' : Node}

theorem getTitle_eq (same : SameShape node node') : node.getTitle = node'.getTitle := by
  cases same with
  | group _ => rfl
  | entry fields => exact fields.title

theorem isGroup_eq (same : SameShape node node') : node.isGroup = node'.isGroup := by
  cases same <;> rfl

theorem isEntry_eq (same : SameShape node node') : node.isEntry = node'.isEntry := by
  cases same <;> rfl

theorem children (same : SameShape node node') :
    List.Forall₂ SameShape node.children node'.children := by
  cases same with
  | group childrenSame => exact childrenSame
  | entry _ => exact List.Forall₂.nil

end SameShape

/-- The children at the same place are at the same places. -/
theorem SamePlace.childPtrs {ptr ptr' : NodePtr} (same : SamePlace ptr ptr') :
    List.Forall₂ SamePlace (childPtrs ptr) (childPtrs ptr') := by
  rcases same with ⟨address_eq, shape⟩
  rcases List.forall₂_iff_get.mp shape.children with ⟨length_eq, shapes⟩
  apply List.forall₂_iff_get.mpr
  constructor
  · simp [Rust.childPtrs, length_eq]
  · intro i bound bound'
    simp only [Rust.childPtrs, List.get_eq_getElem, List.getElem_mapIdx]
    constructor
    · simp only [address_eq]
    · simp only [Rust.childPtrs, List.length_mapIdx] at bound bound'
      exact shapes i bound bound'

/-- Built entries at the same place have the same fields present. -/
theorem SamePlace.buildEntry {ptr ptr' : NodePtr} (same : SamePlace ptr ptr') :
    (buildEntry ptr).SamePresence (buildEntry ptr') := by
  rcases ptr with ⟨address, node⟩
  rcases ptr' with ⟨address', node'⟩
  cases same.2 with
  | group _ => exact ⟨rfl, rfl, rfl, rfl⟩
  | entry fields => exact ⟨fields.username, fields.password, fields.url, fields.notes⟩

variable (toLowercase : Str → Str)

theorem SamePlace.titleMatches_eq {ptr ptr' : NodePtr} (same : SamePlace ptr ptr')
    (target : Str) :
    titleMatches toLowercase ptr target = titleMatches toLowercase ptr' target := by
  rw [titleMatches, titleMatches, same.2.getTitle_eq]

/-- Filters that depend on kind and title alone keep the same places. -/
theorem SamePlace.filter {ptr ptr' : NodePtr} (same : SamePlace ptr ptr')
    {keep : NodePtr → Bool}
    (respects : ∀ {child child' : NodePtr}, SamePlace child child' → keep child = keep child') :
    List.Forall₂ SamePlace ((Rust.childPtrs ptr).filter keep)
      ((Rust.childPtrs ptr').filter keep) := by
  apply List.rel_filter _ same.childPtrs
  intro child child' sameChild
  simp only [respects sameChild]

theorem SamePlace.groupCandidates {ptr ptr' : NodePtr} (same : SamePlace ptr ptr')
    (segment : Str) :
    List.Forall₂ SamePlace (groupCandidates toLowercase ptr segment)
      (groupCandidates toLowercase ptr' segment) := by
  apply same.filter
  intro child child' sameChild
  rw [nodeIsGroup, nodeIsGroup, sameChild.2.isGroup_eq, sameChild.titleMatches_eq]

theorem SamePlace.matchingEntries {ptr ptr' : NodePtr} (same : SamePlace ptr ptr')
    (title : Str) :
    List.Forall₂ SamePlace (matchingEntries toLowercase ptr title)
      (matchingEntries toLowercase ptr' title) := by
  rw [Rust.matchingEntries, Rust.matchingEntries, groupGetChildren_getD, groupGetChildren_getD]
  apply same.filter
  intro child child' sameChild
  rw [nodeIsEntry, nodeIsEntry, sameChild.2.isEntry_eq, sameChild.titleMatches_eq]

/-- Lookups in two trees of the same shape count matches at the same places. -/
theorem firstMatches_samePlace {db db' : KpDatabase} (same : SameShape db.root db'.root)
    (parsed : ParsedPath) :
    List.Forall₂ SamePlace (firstMatches toLowercase db parsed)
      (firstMatches toLowercase db' parsed) := by
  have start : SamePlace db.rootPtr db'.rootPtr := ⟨rfl, same⟩
  apply firstMatches_rel toLowercase _ _ List.Forall₂.nil start
  · exact fun segment samePtr => samePtr.groupCandidates toLowercase segment
  · exact fun title samePtr => samePtr.matchingEntries toLowercase title

/-- Related lists of matches have the same failure, or related selections. -/
theorem outcome_rel {R : NodePtr → NodePtr → Prop} {found found' : List NodePtr}
    (rel : List.Forall₂ R found found') (path : Str) :
    (∃ error, outcome path found = .error error ∧ outcome path found' = .error error) ∨
      ∃ node node', outcome path found = .ok node ∧ outcome path found' = .ok node' ∧
        R node node' := by
  cases rel with
  | nil => exact Or.inl ⟨_, rfl, rfl⟩
  | cons nodeRel restRel =>
      cases restRel with
      | nil => exact Or.inr ⟨_, _, rfl, rfl, nodeRel⟩
      | cons _ _ => exact Or.inl ⟨_, rfl, rfl⟩

/-- Two lookups fail with the same error or select the same place. -/
theorem locate_samePlace {db db' : KpDatabase} (same : SameShape db.root db'.root) (path : Str) :
    (∃ error, locate toLowercase db path = .error error ∧
        locate toLowercase db' path = .error error) ∨
      ∃ node node', locate toLowercase db path = .ok node ∧
        locate toLowercase db' path = .ok node' ∧ SamePlace node node' := by
  cases accepted : parse toLowercase path with
  | error error =>
      exact Or.inl ⟨error, locate_of_parse_error toLowercase db accepted,
        locate_of_parse_error toLowercase db' accepted⟩
  | ok parsed =>
      rw [locate_eq_outcome toLowercase db accepted, locate_eq_outcome toLowercase db' accepted]
      exact outcome_rel (firstMatches_samePlace toLowercase same parsed) path

/-- A lookup fails with an error that is independent of all field values, or
returns an entry whose rendering is. -/
theorem lookup_reveals_no_values (db db' : KpDatabase) (same : SameShape db.root db'.root)
    (path : Str) :
    (∃ error, lookup toLowercase db path = .error error ∧
        lookup toLowercase db' path = .error error) ∨
      ∃ entry entry', lookup toLowercase db path = .ok entry ∧
        lookup toLowercase db' path = .ok entry' ∧
        ∀ alternate, entry.debug alternate = entry'.debug alternate := by
  rw [lookup_eq_map, lookup_eq_map]
  rcases locate_samePlace toLowercase same path with
    ⟨error, left, right⟩ | ⟨node, node', left, right, samePlace⟩
  · rw [left, right]
    exact Or.inl ⟨error, rfl, rfl⟩
  · rw [left, right]
    exact Or.inr ⟨_, _, rfl, rfl, samePlace.buildEntry.debug_eq⟩

/-! ## One entry with two passwords -/

/-- A database with one entry `web/mail` and the given password. -/
def mailWithPassword (password : String) : KpDatabase where
  root := .group (some "Root".toList)
    [.group (some "web".toList)
      [.entry ⟨some "mail".toList, none, some password.toList, none, none⟩]]
  root_isGroup := rfl

theorem lookup_reveals_no_values_mail :
    (∃ error, lookup toAsciiLowercase (mailWithPassword "old") "web/mail".toList = .error error ∧
        lookup toAsciiLowercase (mailWithPassword "new") "web/mail".toList = .error error) ∨
      ∃ entry entry',
        lookup toAsciiLowercase (mailWithPassword "old") "web/mail".toList = .ok entry ∧
        lookup toAsciiLowercase (mailWithPassword "new") "web/mail".toList = .ok entry' ∧
        ∀ alternate, entry.debug alternate = entry'.debug alternate := by
  apply lookup_reveals_no_values
  have entries : SameShape
      (.entry ⟨some "mail".toList, none, some "old".toList, none, none⟩)
      (.entry ⟨some "mail".toList, none, some "new".toList, none, none⟩) :=
    SameShape.entry ⟨rfl, rfl, rfl, rfl, rfl⟩
  exact SameShape.group (List.Forall₂.cons
    (SameShape.group (List.Forall₂.cons entries List.Forall₂.nil)) List.Forall₂.nil)

end KdbxCredentials.Lookup
