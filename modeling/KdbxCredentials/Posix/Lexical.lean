import KdbxCredentials.Posix.FileSystem

/-!
# Paths that are normalized by their text

A runtime can remove the empty, `.` and `..` pieces of a path before it hands the
path to the system.  It then takes a name away for each `..` without asking whether
the name is a directory, or is there at all.  A path that resolves is not changed in
what it names, and neither is a path without `..` that ends in a name.  An entry of a
directory with a normal path has a normal path itself.
-/

namespace KdbxCredentials.Posix

open KdbxCredentials.Text

/-! ## The pieces that are kept -/

/-- A piece that is not dropped where it stands. -/
def isNamed (piece : Bytes) : Bool :=
  decide (piece ≠ []) && decide (piece ≠ [dot])

/-- One more piece, by the pieces kept so far: `..` takes the last one away. -/
def collapseStep (kept : List Bytes) (piece : Bytes) : List Bytes :=
  if piece = [dot, dot] then kept.dropLast
  else if isNamed piece then kept ++ [piece]
  else kept

/-- The pieces that are left of a path. -/
def collapse (path : List Bytes) : List Bytes :=
  path.foldl collapseStep []

/-- An absolute path without its empty, `.` and `..` pieces.  A slash at its end
stays. -/
def normalize (path : Bytes) : Bytes :=
  let kept := collapse (pieces path)
  if kept = [] then [slash]
  else kept.flatMap (slash :: ·) ++ if path.getLast? = some slash then [slash] else []

theorem isNamed_iff (piece : Bytes) : isNamed piece = true ↔ piece ≠ [] ∧ piece ≠ [dot] := by
  simp [isNamed]

theorem isNamed_eq_false_iff (piece : Bytes) :
    isNamed piece = false ↔ piece = [] ∨ piece = [dot] := by
  rw [← Bool.not_eq_true, isNamed_iff, not_and_or, not_not, not_not]

theorem PlainName.isNamed {name : Bytes} (plain : PlainName name) : isNamed name = true :=
  (isNamed_iff name).mpr ⟨plain.nonempty, plain.not_dot⟩

theorem collapse_append_singleton (path : List Bytes) (piece : Bytes) :
    collapse (path ++ [piece]) = collapseStep (collapse path) piece := by
  rw [collapse, List.foldl_append]
  rfl

/-- A name at the end is kept. -/
theorem collapse_append_plain (path : List Bytes) {name : Bytes} (plain : PlainName name) :
    collapse (path ++ [name]) = collapse path ++ [name] := by
  rw [collapse_append_singleton, collapseStep, if_neg plain.not_dotDot, if_pos plain.isNamed]

/-- What is kept are names of the path. -/
theorem mem_collapse {path : List Bytes} {piece : Bytes} (kept : piece ∈ collapse path) :
    piece ∈ path ∧ isNamed piece = true ∧ piece ≠ [dot, dot] := by
  induction path using List.reverseRecOn with
  | nil => cases kept
  | append_singleton path last ih =>
      have earlier : piece ∈ collapse path →
          piece ∈ path ++ [last] ∧ isNamed piece = true ∧ piece ≠ [dot, dot] := by
        intro member
        exact ⟨List.mem_append_left _ (ih member).1, (ih member).2⟩
      rw [collapse_append_singleton, collapseStep] at kept
      split_ifs at kept with parent named
      · exact earlier (List.dropLast_subset _ kept)
      · rcases List.mem_append.mp kept with member | new
        · exact earlier member
        · rw [List.mem_singleton.mp new]
          exact ⟨List.mem_append_right _ List.mem_cons_self, named, parent⟩
      · exact earlier kept

/-- Without `..` the pieces that are kept are the named ones. -/
theorem collapse_eq_filter {path : List Bytes} (noParent : [dot, dot] ∉ path) :
    collapse path = path.filter isNamed := by
  induction path using List.reverseRecOn with
  | nil => rfl
  | append_singleton path last ih =>
      rw [List.mem_append, not_or, List.mem_singleton] at noParent
      rw [collapse_append_singleton, ih noParent.1, collapseStep, if_neg fun same =>
        noParent.2 same.symm, List.filter_append]
      cases named : isNamed last <;> simp [named]

/-! ## The pieces of a normalized path -/

/-- A path of names after slashes has these names as its pieces. -/
theorem pieces_flatMap {first : Bytes} (free : slash ∉ first) {names : List Bytes}
    (noSlash : ∀ name ∈ names, slash ∉ name) :
    pieces (first ++ names.flatMap (slash :: ·)) = first :: names := by
  induction names generalizing first with
  | nil =>
      rw [List.flatMap_nil, List.append_nil]
      exact List.splitOn_eq_singleton free
  | cons name rest ih =>
      rw [List.flatMap_cons, List.cons_append, pieces_append_slash,
        ih (noSlash name List.mem_cons_self) fun other member =>
          noSlash other (List.mem_cons_of_mem name member)]
      rw [pieces, List.splitOn_eq_singleton free]
      rfl

/-- What is kept are plain names. -/
theorem plainName_of_mem_collapse {path name : Bytes} (kept : name ∈ collapse (pieces path)) :
    PlainName name := by
  obtain ⟨member, named, notParent⟩ := mem_collapse kept
  obtain ⟨nonempty, not_dot⟩ := (isNamed_iff name).mp named
  exact ⟨nonempty, noSlash_of_mem_pieces member, not_dot, notParent⟩

variable {names : List Bytes}

/-- A path of plain names has these names as its pieces, after the root. -/
theorem pieces_flatMap_plain (plain : ∀ name ∈ names, PlainName name) :
    pieces (names.flatMap (slash :: ·)) = [] :: names := by
  have free : slash ∉ ([] : Bytes) := List.not_mem_nil
  exact pieces_flatMap free fun name member => (plain name member).noSlash

theorem flatMap_slash_ne_nil (nonempty : names ≠ []) : names.flatMap (slash :: ·) ≠ [] := by
  obtain ⟨name, rest, rfl⟩ := List.exists_cons_of_ne_nil nonempty
  exact List.cons_ne_nil slash _

/-- The last piece of a path is empty when the path ends in a slash. -/
theorem getLast?_pieces_eq_nil_iff {path : Bytes} (nonempty : path ≠ []) :
    (pieces path).getLast? = some [] ↔ path.getLast? = some slash := by
  rcases List.eq_nil_or_concat path with empty | ⟨front, byte, rfl⟩
  · exact absurd empty nonempty
  · rw [List.concat_eq_append, List.getLast?_concat]
    by_cases separator : byte = slash
    · rw [separator, pieces_append_slash]
      simp [pieces]
    · have free : slash ∉ [byte] := by simpa using Ne.symm separator
      obtain ⟨before, last, _, longer⟩ := splitOn_append_right free front
      rw [pieces, longer, List.getLast?_concat]
      simp [separator]

/-- An absolute path begins with an empty piece and has another one. -/
theorem pieces_of_isAbsolute {path : Bytes} (absolute : isAbsolute path = true) :
    ∃ rest, rest ≠ [] ∧ pieces path = [] :: rest := by
  cases path with
  | nil => cases absolute
  | cons byte path =>
      have first : byte = slash := by simpa [isAbsolute] using absolute
      refine ⟨pieces path, pieces_ne_nil path, ?_⟩
      rw [first]
      exact pieces_append_slash [] path

theorem PlainName.isAbsolute_eq_false {name : Bytes} (plain : PlainName name) :
    isAbsolute name = false := by
  cases name with
  | nil => rfl
  | cons byte rest =>
      have other : byte ≠ slash := fun same => plain.noSlash (same ▸ List.mem_cons_self)
      simpa [isAbsolute] using other

/-- A joined path has the pieces of its directory, but for the slash at its end, and
the name. -/
theorem pieces_join {base name : Bytes} (nonempty : base ≠ []) (plain : PlainName name) :
    ∃ front, pieces (join base name) = front ++ [name] ∧
      (pieces base = front ∨ pieces base = front ++ [[]]) := by
  have single : pieces name = [name] := List.splitOn_eq_singleton plain.noSlash
  rw [join, if_neg (by simp [plain.isAbsolute_eq_false])]
  by_cases ends : base.getLast? = some slash
  · obtain ⟨front, rfl⟩ := List.getLast?_eq_some_iff.mp ends
    refine ⟨pieces front, ?_, Or.inr (pieces_append_slash front [])⟩
    rw [if_pos (Or.inr ends), List.append_assoc, List.singleton_append, pieces_append_slash, single]
  · refine ⟨pieces base, ?_, Or.inl rfl⟩
    rw [if_neg (not_or.mpr ⟨nonempty, ends⟩), pieces_append_slash, single]

/-- The empty piece after a slash at the end. -/
def ending (path : List Bytes) : List Bytes :=
  if path.getLast? = some [] then [[]] else []

/-- A normalized path has the kept pieces, after the root. -/
theorem pieces_normalize {path : Bytes} (absolute : isAbsolute path = true) :
    pieces (normalize path) =
      [] :: (collapse (pieces path) ++
        if collapse (pieces path) = [] then [[]] else ending (pieces path)) := by
  have nonempty : path ≠ [] := by
    rintro rfl
    cases absolute
  have names : pieces ((collapse (pieces path)).flatMap (slash :: ·)) =
      [] :: collapse (pieces path) :=
    pieces_flatMap_plain fun name => plainName_of_mem_collapse
  rw [normalize, ending]
  by_cases empty : collapse (pieces path) = []
  · rw [if_pos empty, if_pos empty, empty]
    rfl
  · rw [if_neg empty, if_neg empty]
    by_cases ends : path.getLast? = some slash
    · rw [if_pos ends, if_pos ((getLast?_pieces_eq_nil_iff nonempty).mpr ends),
        pieces_append_slash, names]
      rfl
    · rw [if_neg ends, if_neg fun last => ends ((getLast?_pieces_eq_nil_iff nonempty).mp last),
        List.append_nil, List.append_nil, names]

theorem isAbsolute_normalize (path : Bytes) : isAbsolute (normalize path) = true := by
  rw [normalize]
  split_ifs with empty
  · rfl
  all_goals
    obtain ⟨name, rest, kept⟩ := List.exists_cons_of_ne_nil empty
    rw [kept]
    rfl

/-- A normalized path can be handed to the system if the path can. -/
theorem wellFormed_normalize {path : Bytes} (noNul : nul ∉ path) :
    WellFormed (normalize path) := by
  constructor
  · intro empty
    have absolute := isAbsolute_normalize path
    rw [empty] at absolute
    cases absolute
  · have other : nul ≠ slash := by decide
    have names : nul ∉ (collapse (pieces path)).flatMap (slash :: ·) := by
      intro member
      obtain ⟨name, kept, here⟩ := List.mem_flatMap.mp member
      rcases List.mem_cons.mp here with same | inside
      · exact other same
      · exact noNul ((mem_iff_of_ne other path).mpr ⟨name, (mem_collapse kept).1, inside⟩)
    rw [normalize]
    split_ifs
    · simpa using other
    · simpa [names] using other
    · simpa using names

/-! ## Normal paths -/

/-- A path of plain names does not end in a slash. -/
theorem getLast?_flatMap_plain (nonempty : names ≠ [])
    (plain : ∀ name ∈ names, PlainName name) :
    (names.flatMap (slash :: ·)).getLast? ≠ some slash := by
  intro ends
  have last := (getLast?_pieces_eq_nil_iff (flatMap_slash_ne_nil nonempty)).mpr ends
  rw [pieces_flatMap_plain plain, List.getLast?_cons_of_ne_nil nonempty] at last
  exact (plain [] (List.mem_of_getLast? last)).nonempty rfl

/-- A path of plain names is normal. -/
theorem normalize_flatMap (nonempty : names ≠ []) (plain : ∀ name ∈ names, PlainName name) :
    normalize (names.flatMap (slash :: ·)) = names.flatMap (slash :: ·) := by
  have noParent : [dot, dot] ∉ [] :: names := by
    intro member
    rcases List.mem_cons.mp member with same | inside
    · cases same
    · exact (plain _ inside).not_dotDot rfl
  have kept : collapse ([] :: names) = names := by
    rw [collapse_eq_filter noParent]
    exact List.filter_eq_self.mpr fun name member => (plain name member).isNamed
  rw [normalize, pieces_flatMap_plain plain, kept, if_neg nonempty,
    if_neg (getLast?_flatMap_plain nonempty plain), List.append_nil]

/-- A name that is joined to a normalized path comes after the names that are kept. -/
theorem join_normalize (base : Bytes) {name : Bytes} (plain : PlainName name) :
    join (normalize base) name =
      (collapse (pieces base) ++ [name]).flatMap (slash :: ·) := by
  have relative : ¬isAbsolute name = true := by simp [plain.isAbsolute_eq_false]
  rw [List.flatMap_append, List.flatMap_singleton, join, if_neg relative, normalize]
  by_cases empty : collapse (pieces base) = []
  · rw [if_pos empty, empty]
    rfl
  · rw [if_neg empty]
    by_cases ends : base.getLast? = some slash
    · rw [if_pos ends, if_pos (Or.inr List.getLast?_concat), List.append_assoc]
      rfl
    · have kept := getLast?_flatMap_plain empty fun name => plainName_of_mem_collapse
      rw [if_neg ends, List.append_nil,
        if_neg (not_or.mpr ⟨flatMap_slash_ne_nil empty, kept⟩)]

/-- An entry of a directory that is named by a normal path has a normal path. -/
theorem normalize_join {base name : Bytes} (normal : normalize base = base)
    (plain : PlainName name) : normalize (join base name) = join base name := by
  have names : ∀ other ∈ collapse (pieces base) ++ [name], PlainName other := by
    intro other member
    rcases List.mem_append.mp member with kept | last
    · exact plainName_of_mem_collapse kept
    · rw [List.mem_singleton.mp last]
      exact plain
  have joined := join_normalize base plain
  rw [normal] at joined
  rw [joined]
  exact normalize_flatMap (List.append_ne_nil_of_right_ne_nil _ (List.cons_ne_nil name [])) names

/-! ## What a normalized path names -/

theorem walk_append (loc : Location) (path after : List Bytes) :
    walk loc (path ++ after) = walk loc path >>= fun mid => walk mid after :=
  List.foldlM_append

theorem walk_singleton (loc : Location) (piece : Bytes) : walk loc [piece] = step loc piece := by
  rw [walk, List.foldlM_cons]
  cases step loc piece <;> rfl

theorem walk_append_singleton (loc : Location) (path : List Bytes) (piece : Bytes) :
    walk loc (path ++ [piece]) = walk loc path >>= fun mid => step mid piece := by
  rw [walk_append]
  simp only [walk_singleton]

/-- The step back from where a name has led is the step to where it began. -/
theorem parent_of_step {loc next : Location} {name : Bytes} (named : isNamed name = true)
    (notParent : name ≠ [dot, dot]) (stepped : step loc name = .ok next) : next.parent = loc := by
  rcases loc with ⟨node, ancestors⟩
  obtain ⟨nonempty, not_dot⟩ := (isNamed_iff name).mp named
  cases node with
  | regular readable contents => cases stepped
  | special readable stream => cases stepped
  | directory searchable entries =>
      cases searchable with
      | false => simp [step, nonempty] at stepped
      | true =>
          simp only [step, nonempty, not_dot, notParent, if_false, Bool.true_eq_false] at stepped
          cases found : entries.lookup name with
          | none =>
              rw [found] at stepped
              cases stepped
          | some child =>
              rw [found] at stepped
              cases stepped
              rfl

/-- A piece that is not named leads nowhere else. -/
theorem step_unnamed {loc next : Location} {piece : Bytes} (unnamed : isNamed piece = false)
    (stepped : step loc piece = .ok next) : next = loc := by
  rcases loc with ⟨node, ancestors⟩
  cases node with
  | regular readable contents => cases stepped
  | special readable stream => cases stepped
  | directory searchable entries =>
      rcases (isNamed_eq_false_iff piece).mp unnamed with rfl | rfl
      · cases stepped
        rfl
      · cases searchable <;> cases stepped
        rfl

/-- A path that leads somewhere leads there by the pieces that are kept. -/
theorem walk_collapse {root : FsNode} {path : List Bytes} {loc : Location}
    (reached : walk ⟨root, []⟩ path = .ok loc) : walk ⟨root, []⟩ (collapse path) = .ok loc := by
  induction path using List.reverseRecOn generalizing loc with
  | nil => exact reached
  | append_singleton path last ih =>
      rw [walk_append_singleton] at reached
      cases before : walk ⟨root, []⟩ path with
      | error e =>
          rw [before] at reached
          cases reached
      | ok mid =>
          rw [before] at reached
          change step mid last = .ok loc at reached
          have earlier := ih before
          rw [collapse_append_singleton, collapseStep]
          split_ifs with parent named
          · -- The last kept name is the one that led to `mid`.
            rw [parent] at reached
            have back : loc = mid.parent := by
              rcases mid with ⟨node, ancestors⟩
              cases node with
              | regular readable contents => cases reached
              | special readable stream => cases reached
              | directory searchable entries =>
                  cases searchable <;> cases reached
                  rfl
            rw [back]
            rcases List.eq_nil_or_concat (collapse path) with empty | ⟨front, name, split⟩
            · rw [empty] at earlier
              cases earlier
              rw [empty]
              rfl
            · rw [List.concat_eq_append] at split
              have member : name ∈ collapse path := by
                rw [split]
                exact List.mem_append_right _ List.mem_cons_self
              obtain ⟨_, named, notParent⟩ := mem_collapse member
              rw [split, walk_append_singleton] at earlier
              rw [split, List.dropLast_concat]
              cases there : walk ⟨root, []⟩ front with
              | error e =>
                  rw [there] at earlier
                  cases earlier
              | ok prev =>
                  rw [there] at earlier
                  rw [parent_of_step named notParent earlier]
          · rw [walk_append_singleton, earlier]
            exact reached
          · rw [earlier, step_unnamed (Bool.not_eq_true _ ▸ named) reached]

/-- A path whose normalization only leaves out what makes no difference: it has no
`..`, and `.` only if it ends in a name. -/
structure Straight (path : List Bytes) : Prop where
  noParent : [dot, dot] ∉ path
  ends : (∃ last, path.getLast? = some last ∧ isNamed last = true) ∨ [dot] ∉ path

theorem Straight.tail {piece next : Bytes} {rest : List Bytes}
    (straight : Straight (piece :: next :: rest)) : Straight (next :: rest) where
  noParent member := straight.noParent (List.mem_cons_of_mem piece member)
  ends := by
    rcases straight.ends with ⟨last, ends, named⟩ | noDot
    · rw [List.getLast?_cons_cons] at ends
      exact Or.inl ⟨last, ends, named⟩
    · exact Or.inr fun member => noDot (List.mem_cons_of_mem piece member)

/-- A step that is not named can be left out before another one. -/
theorem walk_cons_unnamed {loc : Location} {piece : Bytes} (unnamed : isNamed piece = false)
    {rest : List Bytes} (nonempty : rest ≠ [])
    (refused : piece = [dot] → loc.node.Refuses [dot] → walk loc rest = .error .eacces) :
    walk loc (piece :: rest) = walk loc rest := by
  rw [walk, List.foldlM_cons]
  change step loc piece >>= (fun mid => walk mid rest) = walk loc rest
  cases stepped : step loc piece with
  | ok next =>
      rw [step_unnamed unnamed stepped]
      rfl
  | error e =>
      change Except.error e = walk loc rest
      rcases step_errno stepped with rfl | rfl | rfl
      · -- Any step fails at a node that is no directory.
        obtain ⟨next, rest', rfl⟩ := List.exists_cons_of_ne_nil nonempty
        have stuck := (step_eq_enotdir_iff loc next).mpr
          ((step_eq_enotdir_iff loc piece).mp stepped)
        rw [walk, List.foldlM_cons, stuck]
        rfl
      · have refuses := (step_eq_eacces_iff loc piece).mp stepped
        rcases (isNamed_eq_false_iff piece).mp unnamed with rfl | rfl
        · exact absurd rfl refuses.1
        · exact (refused rfl refuses).symm
      · have lacks := (step_eq_enoent_iff loc piece).mp stepped
        rcases (isNamed_eq_false_iff piece).mp unnamed with rfl | rfl
        · exact absurd rfl lacks.1.1
        · exact absurd rfl lacks.1.2.1

/-- The pieces that are not named make no difference, but for an empty one at the
end. -/
theorem walk_filter {path : List Bytes} (nonempty : path ≠ []) (straight : Straight path)
    (loc : Location) : walk loc path = walk loc (path.filter isNamed ++ ending path) := by
  induction path generalizing loc with
  | nil => exact absurd rfl nonempty
  | cons piece rest ih =>
      cases rest with
      | nil =>
          cases named : isNamed piece with
          | true =>
              have filled : ¬piece = [] := ((isNamed_iff piece).mp named).1
              simp [ending, named, filled]
          | false =>
              rcases (isNamed_eq_false_iff piece).mp named with rfl | rfl
              · rfl
              · rcases straight.ends with ⟨last, ends, named'⟩ | noDot
                · have same : [dot] = last := Option.some.inj ends
                  rw [← same, named] at named'
                  cases named'
                · exact absurd List.mem_cons_self noDot
      | cons next rest =>
          have later := ih (List.cons_ne_nil next rest) straight.tail
          have ending_eq : ending (piece :: next :: rest) = ending (next :: rest) := by
            rw [ending, List.getLast?_cons_cons]
            rfl
          rw [ending_eq]
          cases named : isNamed piece with
          | true =>
              rw [List.filter_cons_of_pos named, List.cons_append, walk, List.foldlM_cons, walk,
                List.foldlM_cons]
              exact congrArg (step loc piece >>= ·) (funext later)
          | false =>
              rw [List.filter_cons_of_neg (by simp [named]), ← later]
              apply walk_cons_unnamed named (List.cons_ne_nil next rest)
              rintro rfl refuses
              -- A name follows, and its search is refused as well.
              rcases straight.ends with ⟨last, ends, named'⟩ | noDot
              · rw [List.getLast?_cons_cons] at ends
                have member : last ∈ (next :: rest).filter isNamed :=
                  List.mem_filter.mpr ⟨List.mem_of_getLast? ends, named'⟩
                obtain ⟨name, names, split⟩ :=
                  List.exists_cons_of_ne_nil (List.ne_nil_of_mem member)
                have kept : name ∈ (next :: rest).filter isNamed := by
                  rw [split]
                  exact List.mem_cons_self
                have filled := ((isNamed_iff name).mp (List.mem_filter.mp kept).2).1
                have stuck := (step_eq_eacces_iff loc name).mpr ⟨filled, refuses.2⟩
                rw [later, split, List.cons_append, walk, List.foldlM_cons, stuck]
                rfl
              · exact absurd List.mem_cons_self noDot

namespace World

variable {w : World} {path : Bytes}

theorem resolve_of_wellFormed (formed : WellFormed path) (absolute : isAbsolute path = true) :
    w.resolve path = walk ⟨w.root, []⟩ (pieces path) := by
  rw [resolve, if_pos formed, start, if_pos absolute]
  rfl

theorem resolve_normalize (noNul : nul ∉ path) :
    w.resolve (normalize path) = walk ⟨w.root, []⟩ (pieces (normalize path)) :=
  resolve_of_wellFormed (wellFormed_normalize noNul) (isAbsolute_normalize path)

theorem noNul_of_resolve {loc : Location} (found : w.resolve path = .ok loc) : nul ∉ path := by
  by_contra hasNul
  rw [resolve, if_neg fun formed => formed.2 hasNul] at found
  cases found

/-- A path that ends in a slash names a directory. -/
theorem isDirectory_of_slash {loc : Location} (found : w.resolve path = .ok loc)
    (ends : path.getLast? = some slash) : loc.node.isDirectory = true := by
  have nonempty : path ≠ [] := by
    rintro rfl
    cases ends
  have formed : WellFormed path := ⟨nonempty, noNul_of_resolve found⟩
  have last := (getLast?_pieces_eq_nil_iff nonempty).mpr ends
  obtain ⟨front, split⟩ := List.getLast?_eq_some_iff.mp last
  rw [resolve, if_pos formed] at found
  cases started : w.start path with
  | error e =>
      rw [started] at found
      cases found
  | ok origin =>
      rw [started] at found
      change walk origin (pieces path) = .ok loc at found
      rw [split, walk_append_singleton] at found
      cases reached : walk origin front with
      | error e =>
          rw [reached] at found
          cases found
      | ok mid =>
          rw [reached] at found
          change step mid [] = .ok loc at found
          rw [step_unnamed rfl found]
          by_contra file
          rw [Bool.not_eq_true] at file
          rw [(step_eq_enotdir_iff mid []).mpr file] at found
          cases found

/-- An absolute path that names a node names it when it is normalized. -/
theorem resolve_normalize_of_ok (absolute : isAbsolute path = true) {loc : Location}
    (found : w.resolve path = .ok loc) : w.resolve (normalize path) = .ok loc := by
  have noNul := noNul_of_resolve found
  have nonempty : path ≠ [] := by
    rintro rfl
    cases absolute
  have walked := found
  rw [resolve_of_wellFormed ⟨nonempty, noNul⟩ absolute] at walked
  obtain ⟨rest, _, split⟩ := pieces_of_isAbsolute absolute
  have rooted : step ⟨w.root, []⟩ [] = .ok ⟨w.root, []⟩ := by
    rw [split, walk, List.foldlM_cons] at walked
    cases first : step ⟨w.root, []⟩ [] with
    | error e =>
        rw [first] at walked
        cases walked
    | ok next => rw [step_unnamed rfl first]
  have kept := walk_collapse walked
  have stays : loc.node.isDirectory = true → step loc [] = .ok loc := by
    intro directory
    cases stepped : step loc [] with
    | ok next => rw [step_unnamed rfl stepped]
    | error e =>
        rcases step_errno stepped with rfl | rfl | rfl
        · rw [(step_eq_enotdir_iff loc []).mp stepped] at directory
          cases directory
        · exact absurd rfl ((step_eq_eacces_iff loc []).mp stepped).1
        · exact absurd rfl ((step_eq_enoent_iff loc []).mp stepped).1.1
  rw [resolve_normalize noNul, pieces_normalize absolute, walk, List.foldlM_cons, rooted]
  change walk ⟨w.root, []⟩ _ = .ok loc
  rw [walk_append, kept]
  change walk loc _ = .ok loc
  split_ifs with empty
  · rw [empty] at kept
    cases kept
    rw [walk_singleton, rooted]
  · rw [ending]
    split_ifs with ends
    · rw [walk_singleton]
      apply stays
      exact isDirectory_of_slash found ((getLast?_pieces_eq_nil_iff nonempty).mp ends)
    · rfl

/-- An absolute path that is straight resolves alike when it is normalized. -/
theorem resolve_normalize_of_straight (absolute : isAbsolute path = true) (noNul : nul ∉ path)
    (straight : Straight (pieces path)) : w.resolve (normalize path) = w.resolve path := by
  have nonempty : path ≠ [] := by
    rintro rfl
    cases absolute
  obtain ⟨rest, filled, split⟩ := pieces_of_isAbsolute absolute
  obtain ⟨next, rest', rfl⟩ := List.exists_cons_of_ne_nil filled
  rw [resolve_normalize noNul, resolve_of_wellFormed ⟨nonempty, noNul⟩ absolute,
    pieces_normalize absolute, collapse_eq_filter straight.noParent, split]
  rw [split] at straight
  have ending_eq : ending ([] :: next :: rest') = ending (next :: rest') := by
    rw [ending, List.getLast?_cons_cons]
    rfl
  have kept_eq : ([] :: next :: rest').filter isNamed = (next :: rest').filter isNamed := rfl
  rw [ending_eq, kept_eq, walk, List.foldlM_cons, walk, List.foldlM_cons]
  apply congrArg (step ⟨w.root, []⟩ [] >>= ·)
  funext loc
  change walk loc _ = walk loc _
  rw [walk_filter (List.cons_ne_nil next rest') straight.tail loc]
  split_ifs with empty
  · -- Without a name the path is made of slashes.
    have slashes : ending (next :: rest') = [[]] := by
      rcases straight.tail.ends with ⟨last, ends, named⟩ | noDot
      · have member : last ∈ (next :: rest').filter isNamed :=
          List.mem_filter.mpr ⟨List.mem_of_getLast? ends, named⟩
        rw [empty] at member
        cases member
      · obtain ⟨last, ends⟩ := List.getLast?_isSome.mpr (List.cons_ne_nil next rest')
          |> Option.isSome_iff_exists.mp
        have member := List.mem_of_getLast? ends
        have unnamed : isNamed last = false := by
          rw [← Bool.not_eq_true]
          intro named
          have kept := List.mem_filter.mpr ⟨member, named⟩
          rw [empty] at kept
          cases kept
        rcases (isNamed_eq_false_iff last).mp unnamed with rfl | rfl
        · rw [ending, if_pos ends]
        · exact absurd member noDot
    rw [slashes]
  · rfl

/-- In a directory that is there, or that is named without `..`, an entry is found
under the normalized path as well. -/
theorem resolve_normalize_join {base name : Bytes} (absolute : isAbsolute base = true)
    (noNul : nul ∉ join base name) (plain : PlainName name)
    (direct : [dot, dot] ∉ pieces base ∨ ∃ loc, w.resolve base = .ok loc) :
    w.resolve (normalize (join base name)) = w.resolve (join base name) := by
  have nonempty : base ≠ [] := by
    rintro rfl
    cases absolute
  obtain ⟨front, split, front_eq⟩ := pieces_join nonempty plain
  have absolute' := isAbsolute_join absolute plain.isAbsolute_eq_false
  rcases direct with noParent | ⟨loc, found⟩
  · apply resolve_normalize_of_straight absolute' noNul
    rw [split]
    constructor
    · rw [List.mem_append, List.mem_singleton]
      rintro (member | same)
      · apply noParent
        rcases front_eq with whole | slashed
        · rwa [whole]
        · rw [slashed]
          exact List.mem_append_left _ member
      · exact plain.not_dotDot same.symm
    · exact Or.inl ⟨name, List.getLast?_concat, plain.isNamed⟩
  · have formed : WellFormed base := ⟨nonempty, noNul_of_resolve found⟩
    rw [resolve_of_wellFormed formed absolute] at found
    have reached : ∃ mid, walk ⟨w.root, []⟩ front = .ok mid := by
      rcases front_eq with whole | slashed
      · exact ⟨loc, whole ▸ found⟩
      · rw [slashed, walk_append] at found
        cases there : walk ⟨w.root, []⟩ front with
        | ok mid => exact ⟨mid, rfl⟩
        | error e =>
            rw [there] at found
            cases found
    obtain ⟨mid, there⟩ := reached
    have rooted : step ⟨w.root, []⟩ [] = .ok ⟨w.root, []⟩ := by
      obtain ⟨rest, _, base_eq⟩ := pieces_of_isAbsolute absolute
      rw [base_eq, walk, List.foldlM_cons] at found
      cases first : step ⟨w.root, []⟩ [] with
      | error e =>
          rw [first] at found
          cases found
      | ok next => rw [step_unnamed rfl first]
    have kept : collapse (front ++ [name]) ≠ [] := by
      rw [collapse_append_plain front plain]
      simp
    have ending_eq : ending (front ++ [name]) = [] := by
      rw [ending, List.getLast?_concat, if_neg fun same => plain.nonempty (Option.some.inj same)]
    have joined : join base name ≠ [] := by
      intro empty
      rw [empty] at absolute'
      cases absolute'
    rw [resolve_normalize noNul, resolve_of_wellFormed ⟨joined, noNul⟩ absolute',
      pieces_normalize absolute', split, if_neg kept, ending_eq, List.append_nil,
      collapse_append_plain front plain, walk, List.foldlM_cons, rooted]
    change walk ⟨w.root, []⟩ _ = _
    rw [walk_append_singleton, walk_append_singleton, walk_collapse there, there]

end World

end KdbxCredentials.Posix
