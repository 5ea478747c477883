import NativeBuild.Proofs.Paths
import NativeBuild.Proofs.Planning
import NativeBuild.Proofs.Scanning

/-!
# What a scan lists

In a tree without links whose directories have names that are text, a scan lists exactly the source
files that lie below the root, each of them once, under the path of its directory and under its own
(`Tree.scan_lists_sources`).

What lies below the root is a matter of locations there (`Tree.HoldsSource`), and what a scan lists
is a matter of texts (`SourceFile.StandsFor`). The texts are those of the names on the way, and such
texts determine the names; so directories that are called the same are the same, and a clash would
be one of two files in one directory.

The scan has to enter every directory, and it can enter none whose path is longer than paths may be.
That is a condition of the theorem, and it cannot be left out (`LongProject.scan_fails`).
-/

namespace NativeBuild

/-- A scan's inventories as one list of files, each with the directory that it is listed under. -/
def listed (invs : List Inventory) : List (String × SourceFile) :=
  invs.flatMap fun inv => inv.files.map fun f => (inv.dir, f)

/-- A list of the inventories has a file under a directory if the inventory of that directory has
it. -/
theorem mem_listed_iff {invs : List Inventory} {dir : String} {f : SourceFile} :
    (dir, f) ∈ listed invs ↔ Stocked invs dir f := by
  simp only [listed, List.mem_flatMap, List.mem_map, Prod.mk.injEq, Stocked]
  constructor
  · rintro ⟨inv, hinv, g, hg, rfl, rfl⟩
    exact ⟨inv, hinv, rfl, hg⟩
  · rintro ⟨inv, hinv, rfl, hf⟩
    exact ⟨inv, hinv, f, hf, rfl, rfl⟩

/-- A listed file **stands for** the source file `stem.ext` in the directory that some names lead
down to from a root. -/
structure StandsFor (root : String) (dirs : List Name) (stem ext : String)
    (x : String × SourceFile) : Prop where
  dir_eq : Path.ofString x.1 = Location.path dirs
  name_eq : x.2.name = stem
  ext_eq : x.2.ext = ext
  relPath_eq : x.2.relPath = trimRoot root ++ "/" ++ qualifiedName x.1 (stem ++ "." ++ ext)

/-- **The listed texts of a source file** are those of the names on the way to it. -/
theorem SourceNames.standsFor (s : SourceNames) (base : Path) (root : String)
    (h : ∀ n ∈ s.dirs, n.IsText) : StandsFor root s.dirs s.stem s.ext
      (slashPath s.dirs, (s.discovered base (trimRoot root)).file) where
  dir_eq := ofString_slashPath h
  name_eq := rfl
  ext_eq := rfl
  relPath_eq := by
    rw [← s.display_last, ← slashPath_append_singleton]
    rfl

/-- A directory and a name in it are listed once. -/
theorem eq_of_mem_listed {invs : List Inventory} (ha : Ascending Inventory.dir invs)
    {x y : String × SourceFile} (hx : x ∈ listed invs) (hy : y ∈ listed invs) (hdir : x.1 = y.1)
    (hname : x.2.name = y.2.name) : x = y := by
  obtain ⟨inv, hinv, hxinv, hfx⟩ := mem_listed_iff.1 hx
  obtain ⟨inv', hinv', hyinv, hfy⟩ := mem_listed_iff.1 hy
  obtain rfl := ha.eq_of_key_eq hinv hinv' (hxinv.trans (hdir.trans hyinv.symm))
  exact Prod.ext hdir (inv.ascending.eq_of_key_eq hfx hfy hname)

/-- No inventory is made for nothing: a new one holds the file that it is made for. -/
theorem takeStock_keeps_ne_nil {invs invs' : List Inventory} {d : Discovered}
    (hne : ∀ inv ∈ invs, inv.files ≠ []) (h : takeStock invs d = .ok invs') :
    ∀ inv ∈ invs', inv.files ≠ [] := by
  obtain ⟨new, hi, he⟩ := bind_eq_ok_iff.1 h
  obtain rfl : insertAt Inventory.dir new invs = invs' := Except.ok.inj he
  intro inv hinv
  rcases mem_of_mem_insertAt hinv with rfl | hold
  · -- the new inventory has the new file at least
    have hf : d.file ∈ inv.files := ((Inventory.insert_eq_ok hi).2 d.file).2 (Or.inl rfl)
    exact List.ne_nil_of_mem hf
  · exact hne inv hold

namespace Tree

variable {t : Tree} {project : Path} {root : String} {followLinks : Bool} {invs : List Inventory}
  {l : Location} {links : Nat}

/-- **No inventory of a scan is empty.** -/
theorem files_ne_nil_of_scan (h : (t.scan project root followLinks).result = .ok invs) :
    ∀ inv ∈ invs, inv.files ≠ [] := by
  obtain ⟨found, hfound, -⟩ := scan_eq_ok h
  exact foldlM_keeps (fun _ _ _ => takeStock_keeps_ne_nil)
    (fun inv hinv => absurd hinv List.not_mem_nil)
    hfound

/-- **No file is listed twice**: directories differ, and names in a directory do. -/
theorem nodup_listed_of_scan (h : (t.scan project root followLinks).result = .ok invs) :
    (listed invs).Nodup := by
  have hfiles : (listed invs).map Prod.snd = invs.flatMap Inventory.files := by
    simp [listed, List.map_flatMap, Function.comp_def]
  exact List.Nodup.of_map Prod.snd (hfiles ▸ nodup_files_of_scan h)

/-- A directory **holds a source file** `stem.ext`. -/
def HoldsSource (t : Tree) (d : Location) (stem ext : String) : Prop :=
  stem ≠ "" ∧ ext ∈ sourceExtensions ∧ ∃ n content mode,
    n.bytes = Utf8.encode (stem ++ "." ++ ext).toList ∧
    t.get? (d ++ [n]) = some (.file content mode)

/-- The names of all **directories are text**. -/
def DirsAreText (t : Tree) : Prop := ∀ d n, t.isDir (d ++ [n]) = true → n.IsText

/-- A directory below the root holds a source if its names, put behind those of the directory, lead
to a file. -/
theorem holdsSource_iff {d : List Name} {stem ext : String} : t.HoldsSource (l ++ d) stem ext ↔
    ∃ s : SourceNames, s.dirs = d ∧ s.stem = stem ∧ s.ext = ext ∧
      ∃ content mode, t.get? (l ++ s.names) = some (.file content mode) := by
  constructor
  · rintro ⟨hstem, hext, n, content, mode, hbytes, hget⟩
    exact ⟨⟨d, n, stem, ext, hbytes, hstem, hext⟩, rfl, rfl, rfl, content, mode,
      by rwa [SourceNames.names, ← List.append_assoc]⟩
  · rintro ⟨s, rfl, rfl, rfl, content, mode, hget⟩
    refine ⟨s.stem_ne, s.ext_mem, s.last, content, mode, s.bytes_last, ?_⟩
    rwa [List.append_assoc]

/-- The directories on the way to an entry have names that are text. -/
theorem isText_of_get? (htext : t.DirsAreText) {d : List Name} {n : Name} {e : Entry}
    (h : t.get? (l ++ (d ++ [n])) = some e) : ∀ m ∈ d, m.IsText := by
  intro m hm
  obtain ⟨d₁, d₂, rfl⟩ := List.append_of_mem hm
  refine htext (l ++ d₁) m (isDir_above h ?_ ?_)
  · exact ⟨d₂ ++ [n], by simp⟩
  · simp

/-- Without links, and where directories have names that are text, **only two files of one directory
clash**. -/
theorem not_clash_of_holdsSource (hlinks : t.NoLinks) (htext : t.DirsAreText)
    (hone : ∀ d stem ext ext', t.HoldsSource (l ++ d) stem ext → t.HoldsSource (l ++ d) stem ext' →
      ext = ext') (s s' : SourceNames) : ¬ t.Clash followLinks links l s s' := by
  rintro ⟨hne, hs, hs', hcalled, hstem⟩
  obtain ⟨content, mode, hget⟩ := (fileAt_iff_of_noLinks hlinks).1 hs
  obtain ⟨content', mode', hget'⟩ := (fileAt_iff_of_noLinks hlinks).1 hs'
  have hdirs : s.dirs = s'.dirs :=
    slashPath_inj (isText_of_get? htext hget) (isText_of_get? htext hget') hcalled
  have hext : s.ext = s'.ext := by
    refine hone s.dirs s.stem s.ext s'.ext ?_ ?_
    · exact holdsSource_iff.2 ⟨s, rfl, rfl, rfl, content, mode, hget⟩
    · exact holdsSource_iff.2 ⟨s', hdirs.symm, hstem.symm, rfl, content', mode', hget'⟩
  exact hne (SourceNames.names_eq hdirs hstem hext)

/-- **A scan lists exactly the source files below its root.** -/
theorem scan_lists_sources (hlinks : t.NoLinks) (htext : t.DirsAreText)
    (hroot : checkRoot root = .ok ()) (hr : t.resolve (rootPath project root) = .ok (l, links))
    (hdir : t.isDir l = true)
    (hfits : ∀ d, t.isDir (l ++ d) = true →
      (WalkFault.pathFrom (rootPath project root) d).fits = true)
    (hone : ∀ d stem ext ext', t.HoldsSource (l ++ d) stem ext → t.HoldsSource (l ++ d) stem ext' →
      ext = ext') :
    ∃ invs, (t.scan project root followLinks).result = .ok invs ∧
      (invs.Pairwise fun a b => Utf8.encode a.dir.toList < Utf8.encode b.dir.toList) ∧
      (∀ inv ∈ invs, inv.files ≠ []) ∧ (listed invs).Nodup ∧
      (∀ d stem ext, t.HoldsSource (l ++ d) stem ext →
        ∃! x, x ∈ listed invs ∧ StandsFor root d stem ext x) ∧
      ∀ x ∈ listed invs, ∃ d stem ext, t.HoldsSource (l ++ d) stem ext ∧
        StandsFor root d stem ext x := by
  have hwalk : (t.walk (reachable (rootPath project root)) followLinks l links).result = .ok () :=
    result_walk_of_reachable hlinks fun d _ hd => hfits d hd
  obtain ⟨invs, hscan⟩ := scan_of_not_clash hroot hr hdir hwalk
    (not_clash_of_holdsSource hlinks htext hone)
  -- a file is listed under the names on the way to it
  have hmem : ∀ x, x ∈ listed invs ↔ ∃ s : SourceNames,
      (∃ content mode, t.get? (l ++ s.names) = some (.file content mode)) ∧
        x = (slashPath s.dirs, (s.discovered (rootPath project root) (trimRoot root)).file) := by
    rintro ⟨dir, f⟩
    rw [mem_listed_iff, stocked_iff_of_scan hscan hr hdir]
    simp only [fileAt_iff_of_noLinks hlinks, Prod.mk.injEq, eq_comm]
  refine ⟨invs, hscan, ?_, files_ne_nil_of_scan hscan, nodup_listed_of_scan hscan, ?_, ?_⟩
  · exact (ascending_of_scan hscan).imp fun h => Utf8.encode_lt_encode_iff.2 h
  · -- a source is listed under its own directory, and nothing else has that directory and that name
    intro d stem ext hsource
    obtain ⟨s, rfl, rfl, rfl, content, mode, hget⟩ := holdsSource_iff.1 hsource
    have hs := s.standsFor (rootPath project root) root (isText_of_get? htext hget)
    refine ⟨_, ⟨(hmem _).2 ⟨s, ⟨content, mode, hget⟩, rfl⟩, hs⟩, ?_⟩
    rintro y ⟨hy, hyd, hyn, -, -⟩
    exact eq_of_mem_listed (ascending_of_scan hscan) hy ((hmem _).2 ⟨s, ⟨content, mode, hget⟩, rfl⟩)
      (Path.ofString_inj (hyd.trans hs.dir_eq.symm)) hyn
  · -- what is listed has been found, and lies where its names lead
    intro x hx
    obtain ⟨s, ⟨content, mode, hget⟩, rfl⟩ := (hmem x).1 hx
    exact ⟨s.dirs, s.stem, s.ext, holdsSource_iff.2 ⟨s, rfl, rfl, rfl, content, mode, hget⟩,
      s.standsFor _ root (isText_of_get? htext hget)⟩

end Tree

/-! ### Two projects

What is required of a tree is read off its entries. -/

section Entries

variable {t : Tree}

theorem Tree.mem_entries_of_get? {k : Location} {n : Name} {e : Entry}
    (h : t.get? (k ++ [n]) = some e) :
    (k ++ [n], e) ∈ t.entries :=
  (Tree.get?_eq_some_iff (by simp)).1 h

/-- What holds of all entries that are listed holds of all that there are; so these can be
decided. -/
theorem Tree.noLinks_of_entries (h : ∀ x ∈ t.entries, ∀ target, x.2 ≠ .link target) :
    t.NoLinks := by
  intro l target hl
  by_cases hnil : l = []
  · subst hnil
    simp at hl
  · exact h _ ((Tree.get?_eq_some_iff hnil).1 hl) target rfl

theorem Tree.dirsAreText_of_entries
    (h : ∀ x ∈ t.entries, x.2 = .dir → ∀ n ∈ x.1.getLast?, n.IsText) :
    t.DirsAreText := by
  intro d n hd
  exact h _ (Tree.mem_entries_of_get? (decide_eq_true_iff.1 hd)) rfl n (by simp)

/-- One file in each directory is one source file of each name. -/
theorem Tree.ext_eq_of_entries (h : ∀ x ∈ t.entries, ∀ y ∈ t.entries, x.1.dropLast = y.1.dropLast →
      x.2 ≠ .dir → y.2 ≠ .dir → x.1 = y.1) {k : Location} {stem ext ext' : String}
    (hs : t.HoldsSource k stem ext) (hs' : t.HoldsSource k stem ext') : ext = ext' := by
  obtain ⟨-, -, n, content, mode, hn, hget⟩ := hs
  obtain ⟨-, -, n', content', mode', hn', hget'⟩ := hs'
  have heq := h _ (Tree.mem_entries_of_get? hget) _ (Tree.mem_entries_of_get? hget')
    (by rw [List.dropLast_concat, List.dropLast_concat]) (by simp) (by simp)
  obtain rfl : n = n' := by simpa using heq
  have htexts := Utf8.encode_injective (hn.symm.trans hn')
  exact String.toList_inj.1 (by simpa using htexts)

end Entries

/-- The small project has one source file below its module root and one in the directory there. -/
theorem smallProject_lists_sources :
    ∃ invs, (SmallProject.tree.scan (.ofString ".") "src" false).result = .ok invs ∧
      (invs.Pairwise fun a b => Utf8.encode a.dir.toList < Utf8.encode b.dir.toList) ∧
      (∀ inv ∈ invs, inv.files ≠ []) ∧ (listed invs).Nodup ∧
      (∀ d stem ext, SmallProject.tree.HoldsSource ([SmallProject.src] ++ d) stem ext →
        ∃! x, x ∈ listed invs ∧ StandsFor "src" d stem ext x) ∧
      ∀ x ∈ listed invs, ∃ d stem ext,
        SmallProject.tree.HoldsSource ([SmallProject.src] ++ d) stem ext ∧
          StandsFor "src" d stem ext x := by
  have hr : SmallProject.tree.resolve (rootPath (.ofString ".") "src") =
      .ok ([SmallProject.src], linkLimit) := by cbv
  have hfits : ∀ x ∈ SmallProject.tree.entries,
      (WalkFault.pathFrom (rootPath (.ofString ".") "src") x.1.tail).fits = true := by decide_cbv
  refine Tree.scan_lists_sources (Tree.noLinks_of_entries ?_)
    (Tree.dirsAreText_of_entries (by decide_cbv))
    (by decide_cbv) hr (by cbv) ?_ (fun d stem ext ext' => Tree.ext_eq_of_entries (by decide_cbv))
  · simp [SmallProject.tree, SmallProject.text]
  · intro d hd
    exact hfits _ ((Tree.get?_eq_some_iff (by simp)).1 (decide_eq_true_iff.1 hd))

namespace LongProject

/-- The name of its source file. -/
def file : Name := SmallProject.name "x.c"

/-- A path that leads nowhere but to where it starts. -/
def idle (k : Nat) : Path := ⟨(List.replicate k [Path.dot, Path.slash]).flatten⟩

/-- A file next to a directory whose path is too long once the project has a long one. -/
def tree : Tree where
  entries :=
    [([SmallProject.src], .dir),
      ([SmallProject.src, SmallProject.name "subdirectory"], .dir),
      ([SmallProject.src, file], SmallProject.text "")]
  ascending := by
    unfold Ascending
    decide_cbv
  closed := SmallProject.closed_of_dropLast (by decide_cbv)

section Idle

variable {k : Nat}

/-- A path of `k` idle steps has twice as many bytes, **and leads nowhere else**. -/
theorem length_idle (k : Nat) : (idle k).bytes.length = 2 * k := by
  simp [idle, Nat.mul_comm]

theorem zero_notMem_idle (k : Nat) : 0 ∉ (idle k).bytes := by
  intro h
  obtain ⟨bs, hbs, h⟩ := List.mem_flatten.1 h
  obtain rfl := List.eq_of_mem_replicate hbs
  exact absurd h (by decide)

theorem getLast?_idle (hk : 0 < k) : (idle k).bytes.getLast? = some Path.slash := by
  obtain ⟨j, rfl⟩ := Nat.exists_eq_add_one_of_ne_zero hk.ne'
  rw [idle, List.replicate_succ', List.flatten_append]
  simp

theorem components_idle (k : Nat) (bs : Bytes) :
    (⟨(idle k).bytes ++ bs⟩ : Path).components = List.replicate k [Path.dot] ++
      (⟨bs⟩ : Path).components := by
  induction k with
  | zero => rfl
  | succ k ih =>
    have hcut : (⟨[Path.dot] ++ Path.slash :: ((idle k).bytes ++ bs)⟩ : Path).components =
        [[Path.dot]] ++ (⟨(idle k).bytes ++ bs⟩ : Path).components :=
      Text.runs_append_sep (by decide) _ _
    rw [ih] at hcut
    exact hcut

theorem checkRoot_src : checkRoot "src" = .ok () := by decide_cbv

theorem bytes_rootPath_idle (hk : 0 < k) :
    (rootPath (idle k) "src").bytes = (idle k).bytes ++ Utf8.encode "src".toList := by
  have htrim : trimRoot "src" = "src" := by decide_cbv
  rw [bytes_rootPath checkRoot_src, htrim, Path.front, if_pos (Or.inr (getLast?_idle hk))]

/-- Idle steps in front of a root do not matter, as long as the path fits. -/
theorem resolve_idle {t : Tree}
    (hsrc : t.follow true linkLimit [] [.down (Utf8.encode "src".toList)] =
      .ok ⟨.occupied [SmallProject.src], linkLimit⟩) (hk : 0 < k) (hfits : k ≤ 2046) :
    t.resolve (rootPath (idle k) "src") = .ok ([SmallProject.src], linkLimit) := by
  have hbytes := bytes_rootPath_idle hk
  -- the path has no NUL, it is not empty, and it fits
  have hfault : (rootPath (idle k) "src").fault? = none := by
    have hzero : ¬ (rootPath (idle k) "src").bytes.contains 0 = true := by
      rw [List.contains_iff_mem, hbytes, List.mem_append]
      rintro (h | h)
      · exact zero_notMem_idle k h
      · exact absurd h (by decide_cbv)
    have hlength : (rootPath (idle k) "src").fits = true := by
      have hsrc : (Utf8.encode "src".toList).length = 3 := by decide_cbv
      rw [Path.fits, hbytes, List.length_append, length_idle, hsrc, Path.lengthLimit,
        decide_eq_true_iff]
      omega
    rw [Path.fault?, if_neg hzero, if_neg (bare_rootPath checkRoot_src).1, if_pos hlength]
  -- all steps but the last stay at the top
  have hsteps : (rootPath (idle k) "src").walk =
      List.replicate k .here ++ [.down (Utf8.encode "src".toList)] := by
    have hcomponents := components_idle k (Utf8.encode "src".toList)
    rw [← hbytes] at hcomponents
    rw [Path.walk_of_bare (bare_rootPath checkRoot_src), Path.steps, hcomponents, List.map_append,
      List.map_replicate]
    rfl
  rw [Tree.resolve, Tree.locate, hfault]
  dsimp only
  rw [hsteps, Tree.follow_replicate_here rfl, hsrc]

theorem follow_src : tree.follow true linkLimit [] [.down (Utf8.encode "src".toList)] =
    .ok ⟨.occupied [SmallProject.src], linkLimit⟩ := by cbv

/-- What can be reached below the root depends on how much room the idle steps leave. -/
theorem reachable_idle_iff (hk : 0 < k) {names : List Name} :
    reachable (rootPath (idle k) "src") names = true ↔ 2 * k + 3 + (trail names).length ≤ 4095 := by
  have hsrc : (Utf8.encode "src".toList).length = 3 := by decide_cbv
  rw [reachable, Path.fits, bytes_pathFrom (bare_rootPath checkRoot_src), bytes_rootPath_idle hk,
    List.length_append, List.length_append, length_idle, hsrc, Path.lengthLimit, decide_eq_true_iff]

/-- With little room left the walk stops at the subdirectory. -/
theorem walk_idle (hk : 2040 ≤ k) :
    tree.walk (reachable (rootPath (idle k) "src")) false [SmallProject.src] linkLimit =
      Traced.fail (.broken [SmallProject.name "subdirectory"] .nameTooLong) := by
  have hbelow : tree.below [SmallProject.src] = [([SmallProject.name "subdirectory"], .dir),
      ([file], SmallProject.text "")] := by cbv
  -- its name takes the last of the room
  have hreach :
      ¬ reachable (rootPath (idle k) "src") [SmallProject.name "subdirectory"] = true := by
    have hdeep : (trail [SmallProject.name "subdirectory"]).length = 13 := by decide_cbv
    rw [reachable_idle_iff (by omega), hdeep]
    omega
  have hfirst : Tree.passEntry (reachable (rootPath (idle k) "src"))
      ([SmallProject.name "subdirectory"], .dir) =
        Traced.fail (.broken [SmallProject.name "subdirectory"] .nameTooLong) := if_neg hreach
  rw [Tree.walk_false, hbelow]
  change (Tree.passEntry _ ([SmallProject.name "subdirectory"], .dir) >>= fun _ => _) = _
  rw [hfirst]
  rfl

theorem scan_idle (hk : 2040 ≤ k) (hfits : k ≤ 2046) : (tree.scan (idle k) "src" false).result =
    .error (.walk (rootPath (idle k) "src")
      (.broken [SmallProject.name "subdirectory"] .nameTooLong)) := by
  rw [Tree.scan_of_isDir checkRoot_src (resolve_idle follow_src (by omega) hfits) (by cbv),
    Tree.found, walk_idle hk]
  rfl

end Idle

/-- **A directory that cannot be entered** ends a scan, though it is as good as any other. -/
theorem scan_fails : tree.NoLinks ∧ tree.DirsAreText ∧ checkRoot "src" = .ok () ∧
    tree.resolve (rootPath (idle 2040) "src") = .ok ([SmallProject.src], linkLimit) ∧
    tree.isDir [SmallProject.src] = true ∧
    (∀ d stem ext ext', tree.HoldsSource ([SmallProject.src] ++ d) stem ext →
      tree.HoldsSource ([SmallProject.src] ++ d) stem ext' → ext = ext') ∧
    ¬ ∃ invs, (tree.scan (idle 2040) "src" false).result = .ok invs := by
  refine ⟨Tree.noLinks_of_entries ?_, Tree.dirsAreText_of_entries (by decide_cbv), checkRoot_src,
    resolve_idle follow_src (by decide) (by decide), by cbv,
    fun d stem ext ext' => Tree.ext_eq_of_entries (by decide_cbv), ?_⟩
  · simp [tree, SmallProject.text]
  · rintro ⟨invs, h⟩
    rw [scan_idle (by decide) (by decide)] at h
    simp at h

end LongProject

end NativeBuild
