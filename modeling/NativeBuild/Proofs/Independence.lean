import NativeBuild.Proofs.Conservation
import NativeBuild.Proofs.Dependencies
import NativeBuild.Proofs.Rescanning

/-!
# Directories do not influence each other

What modules a directory gives depends on the archives and on the files directly in it.
`Tree.plan_independent` says so of two runs: in two trees without links, whose directories have
names that are text, the modules of a directory are the same if the archive root contains the same
in both and the directory holds the same files. What other directories of the module root hold does
not matter, as long as there is a plan.

A root that contains the same gives the same targets (`targetsOf_eq_of_contains`). For a part of a
root the argument is carried out on the inventories: those of one directory are determined by the
files that the root contains directly in it (`filter_scan_eq`), the targets of an inventory are
called by its directory (`dir_of_mem_targets`), and linking a module only looks at the archives.

`Target.dir` reads the directory off the name of a target; `lies_of_mem_modules` says that the
sources of a module lie there.
-/

namespace NativeBuild

/-! ### The directory of a target -/

/-- The **directory** that a target is called by: its name in front of the last slash. -/
def Target.dir (x : Target) : String :=
  String.ofList ((x.name.toList.reverse.dropWhile (· ≠ '/')).drop 1).reverse

/-- A key without a slash leaves the directory of a qualified name. -/
theorem Target.dir_eq {x : Target} {dir key : String} (hname : x.name = qualifiedName dir key)
    (hkey : '/' ∉ key.toList) : x.dir = dir := by
  -- the directory is what stands in front of the last slash
  have hall : ∀ c ∈ key.toList.reverse, decide (c ≠ '/') = true := by
    intro c hc
    rw [decide_eq_true_eq]
    rintro rfl
    exact hkey (List.mem_reverse.1 hc)
  rw [Target.dir, hname]
  by_cases hdir : dir = ""
  · -- there is no slash in the name
    rw [qualifiedName, if_pos hdir, List.dropWhile_eq_nil_iff.2 hall, hdir]
    rfl
  · rw [toList_qualifiedName hdir, List.reverse_append, List.reverse_cons, List.append_assoc,
      List.dropWhile_append_of_pos hall]
    simp

/-- Linking keeps the directory. -/
theorem Target.dir_link (x : Target) (table : ArchiveTable) : (x.link table).dir = x.dir := by
  rw [Target.dir, Target.dir, x.name_link]

section Inventories

variable {t : Tree} {project : Path} {root : String} {followLinks : Bool} {invs : List Inventory}
  {kind : TargetKind} {runtime : String}

/-- **The targets of an inventory are called by its directory.** -/
theorem dir_of_mem_targets (h : (t.scan project root followLinks).result = .ok invs)
    {inv : Inventory} (hinv : inv ∈ invs) {directivesOf : SourceFile → Logged DirectiveSet}
    {x : Target} (hx : x ∈ inv.targets kind runtime directivesOf) : x.dir = inv.dir := by
  obtain ⟨key, hkey, hname⟩ := exists_key_of_mem_names (List.mem_map_of_mem hx)
  exact Target.dir_eq hname (slash_notMem_of_mem_names h hinv hkey)

/-- The targets of one directory are those of its inventories. -/
theorem filter_flatMap_targets (h : (t.scan project root followLinks).result = .ok invs)
    (directivesOf : SourceFile → Logged DirectiveSet) (dir : String) :
    ((invs.flatMap fun inv => inv.targets kind runtime directivesOf).filter fun x => x.dir = dir) =
      (invs.filter fun inv => inv.dir = dir).flatMap fun inv =>
        inv.targets kind runtime directivesOf :=
  filter_flatMap_of_alike fun _ hinv _ hx => by rw [dir_of_mem_targets h hinv hx]

end Inventories

namespace Tree

/-! ### Two trees -/

section Two

variable {t t' : Tree} {project : Path} {root : String} {followLinks : Bool}
  {invs invs' : List Inventory}
  (hlinks : t.NoLinks) (hlinks' : t'.NoLinks)
    (h : (t.scan project root followLinks).result = .ok invs)

include hlinks hlinks' h

/-- **A file has the same directives** where the root contains it with the same bytes. -/
theorem directivesOf_eq {inv : Inventory} (hinv : inv ∈ invs) {f : SourceFile} (hf : f ∈ inv.files)
    (hsame : ∀ s : SourceNames, slashPath s.dirs = inv.dir →
      ∀ content, t.Contains project root s.names content ↔
      t'.Contains project root s.names content) :
    t.directivesOf f = t'.directivesOf f := by
  have hroot := (scan_eq_ok_iff.1 h).1
  obtain ⟨s, ⟨content, hs⟩, hdir, rfl⟩ := (stocked_iff_contains hlinks h).1 ⟨inv, hinv, rfl, hf⟩
  have hread := directivesAt_of_contains hlinks hroot hs
  have hread' := directivesAt_of_contains hlinks' hroot ((hsame s hdir content).1 hs)
  exact hread.trans hread'.symm

variable (h' : (t'.scan project root followLinks).result = .ok invs')

include h'

/-- Two scans stock a directory alike when it has the same sources. -/
theorem stocked_congr {dir : String} (hsame : ∀ s : SourceNames, slashPath s.dirs = dir →
      ∀ content, t.Contains project root s.names content ↔
      t'.Contains project root s.names content) (f : SourceFile) :
    Stocked invs dir f ↔ Stocked invs' dir f := by
  rw [stocked_iff_contains hlinks h, stocked_iff_contains hlinks' h']
  refine exists_congr fun s => ?_
  constructor
  · rintro ⟨⟨content, hs⟩, hdir, hf⟩
    exact ⟨⟨content, (hsame s hdir content).1 hs⟩, hdir, hf⟩
  · rintro ⟨⟨content, hs⟩, hdir, hf⟩
    exact ⟨⟨content, (hsame s hdir content).2 hs⟩, hdir, hf⟩

/-- **The inventories of one directory** are determined by the files that are directly in it. -/
theorem filter_scan_eq {dir : String} (hsame : ∀ s : SourceNames, slashPath s.dirs = dir →
      ∀ content, t.Contains project root s.names content ↔
      t'.Contains project root s.names content) :
    (invs.filter fun inv => inv.dir = dir) = invs'.filter fun inv => inv.dir = dir := by
  have hfilter : ∀ (is : List Inventory) (dir' : String) (f : SourceFile),
      Stocked (is.filter fun inv => inv.dir = dir) dir' f ↔ dir' = dir ∧ Stocked is dir' f := by
    intro is dir' f
    simp only [Stocked, List.mem_filter, decide_eq_true_eq]
    constructor
    · rintro ⟨inv, ⟨hinv, hdir⟩, rfl, hf⟩
      exact ⟨hdir, inv, hinv, rfl, hf⟩
    · rintro ⟨rfl, inv, hinv, rfl, hf⟩
      exact ⟨inv, ⟨hinv, rfl⟩, rfl, hf⟩
  -- lists of inventories that have the same in stock are equal, and so are their parts for one
  -- directory
  refine eq_of_stocked_iff ((ascending_of_scan h).filter _) ((ascending_of_scan h').filter _)
    (fun inv hinv => files_ne_nil_of_scan h inv (List.mem_filter.1 hinv).1)
    (fun inv hinv => files_ne_nil_of_scan h' inv (List.mem_filter.1 hinv).1) fun dir' f => ?_
  rw [hfilter, hfilter]
  refine and_congr_right ?_
  rintro rfl
  exact stocked_congr hlinks hlinks' h h' hsame f

end Two

section Plans

variable {t t' : Tree} {project : Path} {config : Config} {root : String} {kind : TargetKind}
  {ts ts' : List Target}

/-- **The targets of one directory** are the same where it holds the same files. -/
theorem filter_targetsOf_eq (hlinks : t.NoLinks) (hlinks' : t'.NoLinks)
    (h : (t.targetsOf project config root kind).result = .ok ts)
    (h' : (t'.targetsOf project config root kind).result = .ok ts') {dir : String}
    (hsame : ∀ s : SourceNames, slashPath s.dirs = dir →
      ∀ content, t.Contains project root s.names content ↔
      t'.Contains project root s.names content) :
    (ts.filter fun x => x.dir = dir) = ts'.filter fun x => x.dir = dir := by
  obtain ⟨invs, hscan, -, rfl⟩ := targetsOf_eq_ok_iff.1 h
  obtain ⟨invs', hscan', -, rfl⟩ := targetsOf_eq_ok_iff.1 h'
  rw [filter_flatMap_targets hscan, filter_flatMap_targets hscan',
    ← filter_scan_eq hlinks hlinks' hscan hscan' hsame]
  refine List.flatMap_congr fun inv hinv => Inventory.targets_congr fun f hf => ?_
  rw [List.mem_filter, decide_eq_true_eq] at hinv
  exact directivesOf_eq hlinks hlinks' hscan hinv.1 hf (hinv.2 ▸ hsame)

/-- **A root that contains the same** gives the same targets. -/
theorem targetsOf_eq_of_contains (hlinks : t.NoLinks) (hlinks' : t'.NoLinks)
    (h : (t.targetsOf project config root kind).result = .ok ts)
    (h' : (t'.targetsOf project config root kind).result = .ok ts')
    (hsame : ∀ names content, t.Contains project root names content ↔
      t'.Contains project root names content) :
    ts = ts' := by
  obtain ⟨invs, hscan, -, rfl⟩ := targetsOf_eq_ok_iff.1 h
  obtain ⟨invs', hscan', -, rfl⟩ := targetsOf_eq_ok_iff.1 h'
  have hinvs : invs = invs' := by
    refine eq_of_stocked_iff (ascending_of_scan hscan) (ascending_of_scan hscan')
      (files_ne_nil_of_scan hscan)
      (files_ne_nil_of_scan hscan') fun dir f => ?_
    exact stocked_congr hlinks hlinks' hscan hscan' (fun s _ => hsame s.names) f
  rw [← hinvs]
  refine List.flatMap_congr fun inv hinv => Inventory.targets_congr fun f hf => ?_
  exact directivesOf_eq hlinks hlinks' hscan hinv hf fun s _ => hsame s.names

variable {p p' : BuildPlan}

/-- The sources of a module lie in the directory that it is called by. -/
theorem lies_of_mem_modules (h : (t.plan project config).result = .ok p) {x : Target}
    (hx : x ∈ p.modules) {s : TargetSource}
    (hs : s ∈ x.sources) : s.file.Lies (trimRoot config.moduleRoot) x.dir := by
  obtain ⟨-, -, -, ms, hms, hmodules⟩ := plan_eq_ok_iff.1 h
  obtain ⟨invs, hscan, -, rfl⟩ := targetsOf_eq_ok_iff.1 hms
  obtain ⟨y, hy, rfl⟩ := List.mem_map.1 (hmodules ▸ hx)
  obtain ⟨inv, hinv, hy⟩ := List.mem_flatMap.1 hy
  rw [Target.dir_link, dir_of_mem_targets hscan hinv hy]
  refine lies_of_scan hscan hinv ?_
  -- linking keeps the files, which are files of the inventory
  have hfile : s.file ∈ y.files := y.files_link (.ofTargets p.archives) ▸ List.mem_map_of_mem hs
  rw [← files_targets inv .module config.runtime t.directivesOf]
  exact List.mem_flatMap.2 ⟨y, hy, hfile⟩

/-- **Directories do not influence each other.** Where two trees have the same contents of the
archive root, and a directory below the module root holds the same files with the same bytes, both
plans have the same modules from that directory, whatever else is below the module root. -/
theorem plan_independent (hlinks : t.NoLinks) (hlinks' : t'.NoLinks) (htext : t.DirsAreText)
    (htext' : t'.DirsAreText) (h : (t.plan project config).result = .ok p)
    (h' : (t'.plan project config).result = .ok p')
    (harchives : ∀ names content, t.Contains project config.archiveRoot names content ↔
      t'.Contains project config.archiveRoot names content)
    {d : List Name} (hd : ∀ n ∈ d, n.IsText)
    (hsame : ∀ n content, t.Contains project config.moduleRoot (d ++ [n]) content ↔
      t'.Contains project config.moduleRoot (d ++ [n]) content) :
    (p.modules.filter fun x => x.dir = slashPath d) = p'.modules.filter fun x =>
      x.dir = slashPath d := by
  obtain ⟨-, -, has, ms, hms, hmodules⟩ := plan_eq_ok_iff.1 h
  obtain ⟨-, -, has', ms', hms', hmodules'⟩ := plan_eq_ok_iff.1 h'
  -- the archives are the same, and so is the table of them
  have heq : p.archives = p'.archives := targetsOf_eq_of_contains hlinks hlinks' has has' harchives
  -- linking the modules and picking those of a directory can be done in either order
  have hlinked : ∀ (xs : List Target) (table : ArchiveTable),
      ((xs.map (·.link table)).filter fun x => x.dir = slashPath d) =
        (xs.filter fun x => x.dir = slashPath d).map (·.link table) := by
    intro xs table
    rw [List.filter_map]
    refine congrArg (List.map _) (List.filter_congr fun x _ => ?_)
    simp [Target.dir_link]
  rw [hmodules, hmodules', hlinked, hlinked, heq]
  -- a directory that is called like this one is this one, since all names are text
  refine congrArg (List.map _)
    (filter_targetsOf_eq hlinks hlinks' hms hms' fun s hdir content => ?_)
  have hdirs : ∀ {r : Tree}, r.DirsAreText → r.Contains project config.moduleRoot s.names content →
      s.dirs = d :=
    fun hr hs => slashPath_inj (hs.isText hr) hd hdir
  constructor
  · intro hs
    obtain rfl := hdirs htext hs
    exact (hsame s.last content).1 hs
  · intro hs
    obtain rfl := hdirs htext' hs
    exact (hsame s.last content).2 hs

end Plans

end Tree

/-! ### Two projects with one directory in common -/

namespace Tree

variable {t t' : Tree} {k : Location}

/-- Trees look the same at and below a location where they list the same entries. -/
theorem get?_eq_of_entries
    (h : t.entries.filter (k.isPrefixOf ·.1) = t'.entries.filter (k.isPrefixOf ·.1)) (hk : k ≠ [])
    (names : List Name) : t.get? (k ++ names) = t'.get? (k ++ names) := by
  have hlist : ∀ {r : Tree} {e : Entry}, r.get? (k ++ names) = some e ↔
      (k ++ names, e) ∈ r.entries.filter (k.isPrefixOf ·.1) := by
    intro r e
    rw [get?_eq_some_iff (by simp [hk]), List.mem_filter, and_iff_left]
    exact List.isPrefixOf_iff_prefix.2 (List.prefix_append k names)
  refine Option.ext fun e => ?_
  rw [hlist, hlist, h]

/-- A root that leads to one place contains the same where the trees look the same. -/
theorem contains_congr {project : Path} {root : String} {l : Location} {links : Nat}
    (hr : t.resolve (rootPath project root) = .ok (l, links))
    (hr' : t'.resolve (rootPath project root) = .ok (l, links)) (hdir : t.isDir l = true)
    (hdir' : t'.isDir l = true) {names : List Name}
    (hget : t.get? (l ++ names) = t'.get? (l ++ names)) (content : Bytes) :
    t.Contains project root names content ↔ t'.Contains project root names content := by
  rw [contains_iff hr hdir, contains_iff hr' hdir', hget]

end Tree

namespace RearrangedProject

open SmallProject

/-- The small project with another file beside its directory `net`. -/
def tree : Tree where
  entries :=
    [([lib], .dir),
      ([lib, archived], text "// @ldflags: -lm -lstdc++\n"),
      ([src], .dir),
      ([src, name "main.cc"], text ""),
      ([src, net], .dir),
      ([src, net, sock], text "")]
  ascending := by
    unfold Ascending
    decide_cbv
  closed := closed_of_dropLast (by decide_cbv)

/-- The plan of the rearranged project. -/
def plan : BuildPlan where
  archives := SmallProject.plan.archives
  modules :=
    [⟨.module, "main", [source "src/main.cc" "main" "cc"], .extended, ["-lstdc++"], [], []⟩,
      ⟨.module, "net/sock", [source "src/net/sock.c" "sock" "c"], .plain, [], [], []⟩]

theorem plan_eq : (tree.plan (.ofString ".") .default).result = .ok plan := by cbv

end RearrangedProject

/-- The modules of `net` are the same in both projects. -/
theorem rearrangedProject_independent :
    (SmallProject.tree.plan (.ofString ".") .default).result = .ok SmallProject.plan ∧
      (RearrangedProject.tree.plan (.ofString ".") .default).result = .ok RearrangedProject.plan ∧
      (SmallProject.plan.modules.filter fun x => x.dir = slashPath [SmallProject.net]) =
        RearrangedProject.plan.modules.filter fun x => x.dir = slashPath [SmallProject.net] := by
  have hlib : SmallProject.tree.resolve (rootPath (.ofString ".") "lib") =
      .ok ([SmallProject.lib], linkLimit) := by cbv
  have hlib' : RearrangedProject.tree.resolve (rootPath (.ofString ".") "lib") =
      .ok ([SmallProject.lib], linkLimit) := by cbv
  have hsrc : SmallProject.tree.resolve (rootPath (.ofString ".") "src") =
      .ok ([SmallProject.src], linkLimit) := by cbv
  have hsrc' : RearrangedProject.tree.resolve (rootPath (.ofString ".") "src") =
      .ok ([SmallProject.src], linkLimit) := by cbv
  refine ⟨SmallProject.plan_eq, RearrangedProject.plan_eq,
    Tree.plan_independent (Tree.noLinks_of_entries ?_)
    (Tree.noLinks_of_entries ?_) (Tree.dirsAreText_of_entries (by decide_cbv))
    (Tree.dirsAreText_of_entries (by decide_cbv)) SmallProject.plan_eq RearrangedProject.plan_eq
      (fun names => ?_)
    (by decide_cbv) fun n => ?_⟩
  · simp [SmallProject.tree, SmallProject.text]
  · simp [RearrangedProject.tree, SmallProject.text]
  · exact Tree.contains_congr hlib hlib' (by cbv) (by cbv)
      (Tree.get?_eq_of_entries (by decide_cbv) (List.cons_ne_nil _ _) names)
  · have hnet : SmallProject.tree.get? ([SmallProject.src, SmallProject.net] ++ [n]) =
        RearrangedProject.tree.get? ([SmallProject.src, SmallProject.net] ++ [n]) :=
      Tree.get?_eq_of_entries (by decide_cbv) (List.cons_ne_nil _ _) [n]
    exact Tree.contains_congr hsrc hsrc' (by cbv) (by cbv) hnet

end NativeBuild
