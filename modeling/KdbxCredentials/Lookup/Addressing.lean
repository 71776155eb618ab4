import KdbxCredentials.Lookup.MatchCount

/-!
# The addressable entries

Names in a KeePass tree are arbitrary strings, while a path is split at `/`,
trimmed and lowercased, and walked along the first child group of each name.
An entry is addressable when some path selects it.  Joining the names above an
entry gives such a path if any path does, which settles exactly which stored
entries a lookup can return.
-/

namespace KdbxCredentials.Lookup

open KdbxCredentials.Text
open KdbxCredentials.Descent
open KdbxCredentials.Rust

variable (toLowercase : Str → Str)

/-- The facts about `str::to_lowercase` on which addressing rests. -/
structure LowercaseLaws : Prop where
  idempotent : ∀ s, toLowercase (toLowercase s) = toLowercase s
  empty_iff : ∀ s, toLowercase s = [] ↔ s = []
  slash_iff : ∀ s, '/' ∈ toLowercase s ↔ '/' ∈ s
  unpadded_iff : ∀ s, Unpadded isWhitespace (toLowercase s) ↔ Unpadded isWhitespace s
  root_iff : ∀ s, toLowercase s = rootName ↔ eqIgnoreAsciiCase s rootName = true

/-- A name that survives as a path segment: nonempty, without `/`, and neither
beginning nor ending with whitespace. -/
structure PlainSegment (name : Str) : Prop where
  nonempty : name ≠ []
  noSlash : '/' ∉ name
  unpadded : Unpadded isWhitespace name

/-- A lookup of `path` returns the entry built from the node `e`. -/
def Selects (db : KpDatabase) (path : Str) (e : NodePtr) : Prop :=
  locate toLowercase db path = .ok e ∧ lookup toLowercase db path = .ok (buildEntry e)

/-- The conditions on the tree under which the entry `e`, a child of the last
of `groups`, can be selected at all. -/
structure Addressable (db : KpDatabase) (groups : List NodePtr) (parent e : NodePtr) : Prop where
  nested : groups ≠ []
  plain : ∀ ptr ∈ groups ++ [e], ∃ name, ptr.node.getTitle = some name ∧ PlainSegment name
  notRoot : ∀ group name, groups.head? = some group → group.node.getTitle = some name →
    eqIgnoreAsciiCase name rootName = false
  firstOfName : FirstOfName toLowercase db.rootPtr groups
  sole : ∀ other ∈ childPtrs parent, other.node.isEntry = true → other ≠ e →
    ¬SameName toLowercase other e

variable {toLowercase}

/-! ## Names and segments -/

/-- A name is plain when it lowercases like a plain segment. -/
theorem PlainSegment.of_lowercase_eq (laws : LowercaseLaws toLowercase) {name segment : Str}
    (plain : PlainSegment segment) (same : toLowercase name = toLowercase segment) :
    PlainSegment name where
  nonempty := by
    rw [ne_eq, ← laws.empty_iff, same, laws.empty_iff]
    exact plain.nonempty
  noSlash := by
    rw [← laws.slash_iff, same, laws.slash_iff]
    exact plain.noSlash
  unpadded := by
    rw [← laws.unpadded_iff, same, laws.unpadded_iff]
    exact plain.unpadded

/-- Only the root name lowercases like a segment other than the root name. -/
theorem eqIgnoreAsciiCase_root_eq_false (laws : LowercaseLaws toLowercase) {name segment : Str}
    (notRoot : eqIgnoreAsciiCase segment rootName = false)
    (same : toLowercase name = toLowercase segment) :
    eqIgnoreAsciiCase name rootName = false := by
  rw [← Bool.not_eq_true, ← laws.root_iff, same, laws.root_iff, Bool.not_eq_true]
  exact notRoot

/-- The segments of an accepted path are plain. -/
theorem plainSegment_of_mem {path segment : Str} (member : segment ∈ segments path)
    (nonempty : segment ≠ []) : PlainSegment segment where
  nonempty := nonempty
  noSlash := (segment_spec member).1
  unpadded := (segment_spec member).2

/-- Segments that lowercase like the names of a chain make those names plain. -/
theorem plain_of_spelled (laws : LowercaseLaws toLowercase) (segs : List Str)
    {nodes : List NodePtr}
    (spelled : List.Forall₂ (Spells toLowercase) (segs.map toLowercase) nodes)
    (plain : ∀ segment ∈ segs, PlainSegment segment) :
    ∀ ptr ∈ nodes, ∃ name, ptr.node.getTitle = some name ∧ PlainSegment name := by
  rw [List.forall₂_map_left_iff] at spelled
  intro ptr member
  induction spelled with
  | nil => contradiction
  | @cons segment head segs nodes headSpelled _ ih =>
      rcases List.mem_cons.mp member with rfl | tailMem
      · rcases headSpelled with ⟨name, title_eq, same⟩
        exact ⟨name, title_eq, (plain segment List.mem_cons_self).of_lowercase_eq laws same⟩
      · exact ih (fun s sMem => plain s (List.mem_cons_of_mem segment sMem)) tailMem

/-! ## Every selected entry is addressable -/

theorem addressable_of_locate (laws : LowercaseLaws toLowercase) {db : KpDatabase} {path : Str}
    {groups : List NodePtr} {parent e : NodePtr}
    (above : GroupPath db.rootPtr groups parent) (member : e ∈ childPtrs parent)
    (located : locate toLowercase db path = .ok e) :
    Addressable toLowercase db groups parent e := by
  cases accepted : parse toLowercase path with
  | error error =>
      rw [locate_of_parse_error toLowercase db accepted] at located
      contradiction
  | ok parsed =>
      have sole_eq : firstMatches toLowercase db parsed = [e] := by
        rw [locate_eq_outcome toLowercase db accepted] at located
        exact outcome_eq_ok_iff.mp located
      have first : IsFirstMatch toLowercase db parsed e := by
        rw [← mem_firstMatches_iff, sole_eq]
        exact List.mem_cons_self
      rcases first with ⟨group, chain, groupMem, titled⟩
      rcases firstChain_iff.mp chain with ⟨groups', path', firstOfName, spelled⟩
      rcases above.unique path' member groupMem with ⟨rfl, rfl⟩
      rcases (parse_eq_ok_iff toLowercase path parsed).mp accepted with
        ⟨first, segs, title, split, nonempty, notRoot, rfl⟩
      have plainSegs : ∀ segment ∈ first :: segs ++ [title], PlainSegment segment := by
        rw [← split]
        exact fun segment segMem => plainSegment_of_mem segMem (nonempty segment segMem)
      constructor
      · rintro rfl
        cases spelled
      · apply plain_of_spelled laws (first :: segs ++ [title]) _ plainSegs
        rw [List.map_append]
        exact List.rel_append spelled (List.Forall₂.cons titled.2 List.Forall₂.nil)
      · intro group name head title_eq
        cases spelled with
        | cons headSpelled _ =>
            cases head
            rcases headSpelled with ⟨name', title_eq', same⟩
            rw [title_eq] at title_eq'
            rw [Option.some.inj title_eq']
            exact eqIgnoreAsciiCase_root_eq_false laws notRoot same
      · exact firstOfName
      · intro other otherMem isEntry distinct same
        have otherFirst : IsFirstMatch toLowercase db
            ⟨(first :: segs).map toLowercase, toLowercase title⟩ other :=
          ⟨parent, chain, otherMem, isEntry, (sameName_iff_of_spells titled.2).mp same⟩
        rw [← mem_firstMatches_iff, sole_eq] at otherFirst
        exact distinct (List.mem_singleton.mp otherFirst)

/-! ## Every addressable entry is selected -/

/-- The names of plain nodes, as a list of plain segments. -/
theorem exists_names {nodes : List NodePtr}
    (plain : ∀ ptr ∈ nodes, ∃ name, ptr.node.getTitle = some name ∧ PlainSegment name) :
    ∃ names : List Str, List.Forall₂ (fun name (ptr : NodePtr) => ptr.node.getTitle = some name)
        names nodes ∧ ∀ name ∈ names, PlainSegment name := by
  induction nodes with
  | nil => exact ⟨[], List.Forall₂.nil, by simp⟩
  | cons ptr rest ih =>
      rcases plain ptr List.mem_cons_self with ⟨name, title_eq, plainName⟩
      rcases ih fun other otherMem => plain other (List.mem_cons_of_mem ptr otherMem) with
        ⟨names, titles, plainNames⟩
      exact ⟨name :: names, List.Forall₂.cons title_eq titles,
        List.forall_mem_cons.mpr ⟨plainName, plainNames⟩⟩

theorem locate_of_addressable {db : KpDatabase} {groups : List NodePtr} {parent e : NodePtr}
    (above : GroupPath db.rootPtr groups parent) (member : e ∈ childPtrs parent)
    (isEntry : e.node.isEntry = true) (addressable : Addressable toLowercase db groups parent e) :
    ∃ path, locate toLowercase db path = .ok e := by
  rcases addressable with ⟨nested, plain, notRoot, firstOfName, sole⟩
  rcases exists_names fun ptr ptrMem => plain ptr (List.mem_append_left [e] ptrMem) with
    ⟨names, titles, plainNames⟩
  rcases plain e (List.mem_append_right groups List.mem_cons_self) with
    ⟨title, title_eq, plainTitle⟩
  cases titles with
  | nil => contradiction
  | @cons first head rest tail headTitle restTitles =>
      have allPlain : ∀ name ∈ first :: rest ++ [title], PlainSegment name := by
        intro name nameMem
        rcases List.mem_append.mp nameMem with inNames | isTitle
        · exact plainNames name inNames
        · rw [List.mem_singleton.mp isTitle]
          exact plainTitle
      -- the path made of the names as they are stored
      let path := ['/'].intercalate (first :: rest ++ [title])
      have split : segments path = first :: rest ++ [title] :=
        segments_intercalate (by simp)
          fun name nameMem => ⟨(allPlain name nameMem).noSlash, (allPlain name nameMem).unpadded⟩
      have accepted : parse toLowercase path =
          .ok ⟨(first :: rest).map toLowercase, toLowercase title⟩ := by
        have nonempty : ∀ segment ∈ segments path, segment ≠ [] := by
          rw [split]
          exact fun name nameMem => (allPlain name nameMem).nonempty
        rw [parse_eq_ok_iff]
        exact ⟨first, rest, title, split, nonempty, notRoot head first rfl headTitle, rfl⟩
      have chain : FirstChain toLowercase db.rootPtr ((first :: rest).map toLowercase) parent := by
        have spelled : List.Forall₂ (fun name => Spells toLowercase (toLowercase name))
            (first :: rest) (head :: tail) :=
          List.Forall₂.cons ⟨first, headTitle, rfl⟩
            (restTitles.imp fun name ptr found => ⟨name, found, rfl⟩)
        apply firstChain_iff.mpr ⟨head :: tail, above, firstOfName, _⟩
        rw [List.forall₂_map_left_iff]
        exact spelled
      have titled : TitledEntry toLowercase (toLowercase title) e := ⟨isEntry, title, title_eq, rfl⟩
      have unique : ∃! found, IsFirstMatch toLowercase db
          ⟨(first :: rest).map toLowercase, toLowercase title⟩ found := by
        refine ⟨e, ⟨parent, chain, member, titled⟩, ?_⟩
        rintro other ⟨group, otherChain, otherMem, otherTitled⟩
        have group_eq : group = parent := otherChain.end_unique chain
        subst group
        by_contra distinct
        exact sole other otherMem otherTitled.1 distinct
          ((sameName_iff_of_spells titled.2).mpr otherTitled.2)
      have listed := mem_firstMatches_iff toLowercase db
        ⟨(first :: rest).map toLowercase, toLowercase title⟩
      rcases (singleton_iff_existsUnique listed (nodup_firstMatches toLowercase db _)).mpr unique
        with ⟨found, matches_eq⟩
      have found_eq : e = found := by
        rw [← List.mem_singleton, ← matches_eq, listed]
        exact ⟨parent, chain, member, titled⟩
      exact ⟨path, by
        rw [locate_eq_outcome toLowercase db accepted, matches_eq, outcome, found_eq]⟩

/-- An entry can be selected by some path exactly when it is addressable. -/
theorem exists_selects_iff_addressable (laws : LowercaseLaws toLowercase) (db : KpDatabase)
    (groups : List NodePtr) (parent e : NodePtr)
    (above : GroupPath db.rootPtr groups parent) (member : e ∈ childPtrs parent)
    (isEntry : e.node.isEntry = true) :
    (∃ path, Selects toLowercase db path e) ↔ Addressable toLowercase db groups parent e := by
  constructor
  · rintro ⟨path, located, _⟩
    exact addressable_of_locate laws above member located
  · intro addressable
    rcases locate_of_addressable above member isEntry addressable with ⟨path, located⟩
    have built : lookup toLowercase db path = .ok (buildEntry e) := by
      rw [lookup_eq_map, located]
      rfl
    exact ⟨path, located, built⟩

/-! ## The laws hold of the ASCII mapping -/

theorem lowercaseLaws_toAsciiLowercase : LowercaseLaws toAsciiLowercase where
  idempotent := toAsciiLowercase_idem
  empty_iff s := List.map_eq_nil_iff
  slash_iff s := by
    have slash : ∀ c : Char, c.toLower = '/' ↔ c = '/' :=
      toLower_eq_iff (by decide) (by decide)
    simp [toAsciiLowercase, slash]
  unpadded_iff s := unpadded_map_iff isWhitespace isWhitespace_toLower s
  root_iff s := by
    have root_fixed : toAsciiLowercase rootName = rootName := by decide
    rw [eqIgnoreAsciiCase, root_fixed, beq_iff_eq]

/-- One group `Web` with one entry `mail`. -/
def webMail : KpDatabase where
  root := .group (some "Root".toList)
    [.group (some "Web".toList) [.entry ⟨some "mail".toList, none, none, none, none⟩]]
  root_isGroup := rfl

theorem exists_selects_iff_addressable_webMail :
    let mail : NodePtr := ⟨[0, 0], .entry ⟨some "mail".toList, none, none, none, none⟩⟩
    let web : NodePtr :=
      ⟨[0], .group (some "Web".toList) [.entry ⟨some "mail".toList, none, none, none, none⟩]⟩
    (∃ path, Selects toAsciiLowercase webMail path mail) ↔
      Addressable toAsciiLowercase webMail [web] web mail := by
  apply exists_selects_iff_addressable lowercaseLaws_toAsciiLowercase
  · exact GroupPath.step (mem_childPtrs_iff.mpr ⟨0, rfl, rfl⟩) rfl (GroupPath.here _)
  · exact mem_childPtrs_iff.mpr ⟨0, rfl, rfl⟩
  · rfl

end KdbxCredentials.Lookup
