import NativeBuild.Proofs.Listing

/-!
# The contents of a root

What a plan takes from a root are the files below it: the names on the way to them, and their bytes.
In a tree without links this is all. `Tree.Contains` says that a file is among the contents of a
root, and then

* a scan that succeeds has in stock what the root contains (`stocked_iff_contains`);
* the directives of a file are those of its bytes, if the path to it can be opened
  (`directivesAt_of_contains`).

So two trees with the same contents of a root have the same targets of it, wherever the root may lie
and whatever else may be in them.
-/

namespace NativeBuild

namespace Tree

variable {t : Tree} {project : Path} {root : String} {names : List Name} {content content' : Bytes}

/-- A root **contains** a file with some bytes, under the names on the way to it. -/
def Contains (t : Tree) (project : Path) (root : String) (names : List Name)
    (content : Bytes) : Prop :=
  ∃ l links mode, t.resolve (rootPath project root) = .ok (l, links) ∧ t.isDir l = true ∧
    t.get? (l ++ names) = some (.file content mode)

/-- The names lead from the root to a file. -/
theorem Contains.exists_get? (h : t.Contains project root names content) {l : Location}
    {links : Nat} (hr : t.resolve (rootPath project root) = .ok (l, links)) :
    ∃ mode, t.get? (l ++ names) = some (.file content mode) := by
  obtain ⟨l', links', mode, hr', -, hget⟩ := h
  obtain ⟨rfl, -⟩ := Prod.mk.inj (Except.ok.inj (hr.symm.trans hr'))
  exact ⟨mode, hget⟩

/-- What a root contains are **the files below the directory that it leads to**. -/
theorem contains_iff {l : Location} {links : Nat}
    (hr : t.resolve (rootPath project root) = .ok (l, links)) (hdir : t.isDir l = true) :
    t.Contains project root names content ↔ ∃ mode,
      t.get? (l ++ names) = some (.file content mode) := by
  refine ⟨fun h => h.exists_get? hr, ?_⟩
  rintro ⟨mode, hget⟩
  exact ⟨l, links, mode, hr, hdir, hget⟩

/-- A file has one content. -/
theorem Contains.eq (h : t.Contains project root names content)
    (h' : t.Contains project root names content') :
    content = content' := by
  obtain ⟨l, links, mode, hr, -, hget⟩ := h
  obtain ⟨mode', hget'⟩ := h'.exists_get? hr
  exact (Entry.file.inj (Option.some.inj (hget.symm.trans hget'))).1

/-- The directories on the way to a file have names that are text. -/
theorem Contains.isText (htext : t.DirsAreText) {d : List Name} {n : Name}
    (h : t.Contains project root (d ++ [n]) content) : ∀ m ∈ d, m.IsText := by
  obtain ⟨l, links, mode, -, -, hget⟩ := h
  exact isText_of_get? htext hget

/-! ### What is in stock -/

/-- **What is in stock after a scan is what the root contains.** -/
theorem stocked_iff_contains (hlinks : t.NoLinks) {followLinks : Bool} {invs : List Inventory}
    (h : (t.scan project root followLinks).result = .ok invs) {dir : String} {f : SourceFile} :
    Stocked invs dir f ↔ ∃ s : SourceNames, (∃ content, t.Contains project root s.names content) ∧
      slashPath s.dirs = dir ∧ (s.discovered (rootPath project root) (trimRoot root)).file = f := by
  obtain ⟨-, ⟨hnone, rfl⟩ | ⟨l, links, hr, hdir, -⟩⟩ := scan_eq_ok_iff.1 h
  · -- a root that is no directory contains nothing
    refine iff_of_false (stocked_nil dir f) ?_
    rintro ⟨s, ⟨content, l, links, mode, hr, hdir, -⟩, -⟩
    rw [hnone l links hr] at hdir
    exact Bool.false_ne_true hdir
  · rw [stocked_iff_of_scan h hr hdir]
    refine exists_congr fun s => and_congr_left fun _ => ?_
    rw [fileAt_iff_of_noLinks hlinks]
    exact exists_congr fun content => (contains_iff hr hdir).symm

/-! ### What is read -/

theorem zero_notMem_trail (names : List Name) : (0 : UInt8) ∉ trail names := by
  intro h
  obtain ⟨n, -, h⟩ := List.mem_flatMap.1 h
  rcases List.mem_cons.1 h with h | h
  · exact absurd h (by decide)
  · have hname := n.isName_bytes
    simp [Name.isName, h] at hname

/-- A path below one that can be followed is refused only for its length. -/
theorem fault?_pathFrom {base : Path} (hb : base.Bare) (hfault : base.fault? = none)
    (names : List Name) :
    (WalkFault.pathFrom base names).fault? =
      if (WalkFault.pathFrom base names).fits then none else some .nameTooLong := by
  have hzero : ¬ (WalkFault.pathFrom base names).bytes.contains 0 = true := by
    rw [List.contains_iff_mem, bytes_pathFrom hb, List.mem_append, not_or]
    refine ⟨fun hmem => ?_, zero_notMem_trail names⟩
    rw [Path.fault?, if_pos (List.contains_iff_mem.2 hmem)] at hfault
    exact Option.some_ne_none _ hfault
  rw [Path.fault?, if_neg hzero, if_neg (bare_pathFrom hb names).1]

/-- **A path below one that can be followed** leads to where the names lead, unless it is too long
to be followed. -/
theorem resolve_pathFrom {base : Path} (hb : base.Bare) {l q : Location} {links left : Nat}
    (hr : t.resolve base = .ok (l, links)) (hleads : t.Leads links l names q left) :
    t.resolve (WalkFault.pathFrom base names) =
      if (WalkFault.pathFrom base names).fits then .ok (q, left) else .error .nameTooLong := by
  obtain ⟨hfault, hf⟩ := resolve_eq_ok_iff.1 hr
  rw [Path.walk_of_bare hb] at hf
  rw [Leads] at hleads
  unfold resolve locate
  rw [fault?_pathFrom hb hfault]
  -- the path can be asked for if it fits, since neither base nor names have a NUL
  split_ifs with hfits
  · -- first along the base, and from there along the names
    dsimp only
    rw [Path.walk_of_bare (bare_pathFrom hb names), steps_pathFrom hb,
      follow_append (Or.inl rfl), hf]
    dsimp only
    rw [hleads]
  · rfl

/-- The path to a file leads there, unless it is too long to be opened. -/
theorem entryAt_pathFrom (hlinks : t.NoLinks) {base : Path} (hb : base.Bare) {l : Location}
    {links : Nat} (hr : t.resolve base = .ok (l, links)) {mode : Nat}
    (hget : t.get? (l ++ names) = some (.file content mode)) :
    t.entryAt (WalkFault.pathFrom base names) =
      if (WalkFault.pathFrom base names).fits then .ok (.file content mode)
      else .error .nameTooLong := by
  -- below the base the names lead down
  have hfile : t.FileAt true links l names := (fileAt_iff_of_noLinks hlinks).2 ⟨content, mode, hget⟩
  obtain ⟨q, left, content', mode', hleads, -, -⟩ := hfile
  obtain rfl := eq_append_of_leads hlinks hleads
  unfold entryAt
  rw [resolve_pathFrom hb hr hleads]
  split_ifs with hfits
  · dsimp only
    rw [hget]
  · rfl

/-- The directives of a file with some bytes at a path. -/
def directivesIn (path : Path) (content : Bytes) : Logged DirectiveSet :=
  if path.fits then Traced.ofExcept (DirectiveSet.read path (Utf8.decodeLossy content))
  else do
    Traced.note (.unreadable path .nameTooLong)
    return .empty

/-- **The directives of a file are those of its bytes.** -/
theorem directivesAt_of_get? (hlinks : t.NoLinks) {base : Path} (hb : base.Bare) {l : Location}
    {links : Nat} (hr : t.resolve base = .ok (l, links)) {mode : Nat}
    (hget : t.get? (l ++ names) = some (.file content mode)) :
    t.directivesAt (WalkFault.pathFrom base names) =
      directivesIn (WalkFault.pathFrom base names) content := by
  unfold directivesAt readBytes directivesIn
  rw [entryAt_pathFrom hlinks hb hr hget]
  split_ifs with hfits
  · rfl
  · rfl

/-- The directives at a path depend on the content of the file, and on nothing else in the tree. -/
theorem directivesAt_of_contains (hlinks : t.NoLinks) (hroot : checkRoot root = .ok ())
    (h : t.Contains project root names content) :
    t.directivesAt (WalkFault.pathFrom (rootPath project root) names) =
      directivesIn (WalkFault.pathFrom (rootPath project root) names) content := by
  obtain ⟨l, links, mode, hr, -, hget⟩ := h
  exact directivesAt_of_get? hlinks (bare_rootPath hroot) hr hget

end Tree

end NativeBuild
