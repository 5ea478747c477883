import NativeBuild.Proofs.Targets

/-!
# Plans lose no source

Between the scan of a root and the targets of a plan a source file passes through grouping, merging
and, for modules, linking. None of these drops, repeats or moves a file. A target takes files at its
end (`files_addFiles`), the clusters of an inventory are its files cut into pieces
(`files_targets`), and linking leaves sources alone (`files_link`). So the sources of all targets of
a root, put together in order, are the files that the scan has in stock, in order
(`conserves_targetsOf`).

Since a scan has no file in stock twice, this puts every file into exactly one target of its root.
`plan_conserves_sources` is the statement for a whole plan.
-/

namespace NativeBuild

/-- **The targets of an inventory hold its files**, in order. -/
theorem files_targets (inv : Inventory) (kind : TargetKind) (runtime : String)
    (directivesOf : SourceFile → Logged DirectiveSet) :
    (inv.targets kind runtime directivesOf).flatMap Target.files = inv.files := by
  -- a target has the sources of its group
  have hcluster : ∀ c : Declared × List Declared,
      (Group.ofCluster ⟨inv.dir, kind, runtime⟩ c).target.files = (c.1 :: c.2).map Prod.fst := by
    intro c
    rw [Group.ofCluster, Target.files_addFiles, Target.files_empty, List.nil_append]
  -- the groups of an inventory, put one behind the other, are the inventory again
  calc (inv.targets kind runtime directivesOf).flatMap Target.files
      = (clusters (declared directivesOf inv.files)).flatMap fun c =>
        (c.1 :: c.2).map Prod.fst := by
        rw [Inventory.targets, List.flatMap_map]
        exact List.flatMap_congr fun c _ => hcluster c
    _ = ((clusters (declared directivesOf inv.files)).flatMap fun c => c.1 :: c.2).map Prod.fst :=
        List.map_flatMap.symm
    _ = inv.files := by rw [flatMap_clusters, map_fst_declared]

/-! ### Conservation -/

/-- Targets **conserve** inventories: the directories of the inventories and the names in each of
them ascend, the sources of the targets are the files of the inventories, in this order, and so each
file is a source of exactly one target, once. -/
structure Conserves (ts : List Target) (invs : List Inventory) : Prop where
  ascending_dirs : Ascending Inventory.dir invs
  ascending_names : ∀ inv ∈ invs, Ascending SourceFile.name inv.files
  files_eq : ts.flatMap Target.files = invs.flatMap Inventory.files
  nodup : (ts.flatMap Target.files).Nodup
  existsUnique : ∀ inv ∈ invs, ∀ f ∈ inv.files, ∃! x, x ∈ ts ∧ f ∈ x.files

/-- Lists that have nothing in common, put together, have each element in one of them. -/
theorem existsUnique_of_nodup_flatMap {α β : Type} {g : α → List β} {l : List α}
    (h : (l.flatMap g).Nodup) {b : β} (hb : b ∈ l.flatMap g) : ∃! a, a ∈ l ∧ b ∈ g a := by
  -- on the list: what is in it is in the first or in one of the others, and not in both
  induction l with
  | nil => exact absurd hb (by simp)
  | cons a rest ih =>
    -- what the first has is apart from what the others have
    rw [List.flatMap_cons, List.nodup_append] at h
    obtain ⟨-, hrest, hapart⟩ := h
    rcases List.mem_append.1 (List.flatMap_cons ▸ hb) with hba | hbr
    · refine ⟨a, ⟨List.mem_cons_self, hba⟩, ?_⟩
      rintro a' ⟨ha', hba'⟩
      rcases List.mem_cons.1 ha' with rfl | ha'
      · rfl
      · exact absurd rfl (hapart b hba b (List.mem_flatMap.2 ⟨a', ha', hba'⟩))
    · obtain ⟨a', ⟨ha', hba'⟩, huniq⟩ := ih hrest hbr
      refine ⟨a', ⟨List.mem_cons_of_mem a ha', hba'⟩, ?_⟩
      rintro a'' ⟨ha'', hba''⟩
      rcases List.mem_cons.1 ha'' with rfl | ha''
      · exact absurd rfl (hapart b hba'' b hbr)
      · exact huniq a'' ⟨ha'', hba''⟩

/-- **The targets of a root conserve its scan.** -/
theorem conserves_targetsOf {t : Tree} {project : Path} {config : Config} {root : String}
    {kind : TargetKind} {ts : List Target}
    (h : (t.targetsOf project config root kind).result = .ok ts) :
    ∃ invs, (t.scan project root config.followLinks).result = .ok invs ∧ Conserves ts invs := by
  obtain ⟨invs, hscan, -, rfl⟩ := Tree.targetsOf_eq_ok_iff.1 h
  -- inventory by inventory, the targets hold the files
  have hfiles : (invs.flatMap fun inv => inv.targets kind config.runtime t.directivesOf).flatMap
      Target.files = invs.flatMap Inventory.files := by
    rw [List.flatMap_assoc]
    exact List.flatMap_congr fun inv _ => files_targets inv kind config.runtime t.directivesOf
  have hnodup := nodup_files_of_scan hscan
  rw [← hfiles] at hnodup
  refine ⟨invs, hscan, ascending_of_scan hscan, fun inv _ => inv.ascending, hfiles, hnodup, ?_⟩
  intro inv hinv f hf
  exact existsUnique_of_nodup_flatMap hnodup (hfiles ▸ List.mem_flatMap.2 ⟨inv, hinv, hf⟩)

/-- Linking each of some targets changes nothing about what they conserve. -/
theorem Conserves.map_link {ts : List Target} {invs : List Inventory} (h : Conserves ts invs)
    (table : ArchiveTable) : Conserves (ts.map (·.link table)) invs := by
  have hfiles : (ts.map (·.link table)).flatMap Target.files = ts.flatMap Target.files := by
    rw [List.flatMap_map]
    exact List.flatMap_congr fun x _ => x.files_link table
  have hnodup := h.nodup
  rw [← hfiles] at hnodup
  refine ⟨h.ascending_dirs, h.ascending_names, hfiles.trans h.files_eq, hnodup, ?_⟩
  intro inv hinv f hf
  refine existsUnique_of_nodup_flatMap hnodup ?_
  rw [hfiles, h.files_eq]
  exact List.mem_flatMap.2 ⟨inv, hinv, hf⟩

/-- **Plans lose no source.** The archives of a plan conserve the scan of the archive root, and its
modules the scan of the module root. -/
theorem plan_conserves_sources {t : Tree} {project : Path} {config : Config} {p : BuildPlan}
    (h : (t.plan project config).result = .ok p) :
    (∃ invs, (t.scan project config.archiveRoot config.followLinks).result = .ok invs ∧
        Conserves p.archives invs) ∧
      ∃ invs, (t.scan project config.moduleRoot config.followLinks).result = .ok invs ∧
        Conserves p.modules invs := by
  obtain ⟨-, -, harchives, ms, hms, hmodules⟩ := Tree.plan_eq_ok_iff.1 h
  refine ⟨conserves_targetsOf harchives, ?_⟩
  obtain ⟨invs, hscan, hinvs⟩ := conserves_targetsOf hms
  rw [hmodules]
  exact ⟨invs, hscan, hinvs.map_link _⟩

/-- The small project, whose roots both have sources. -/
theorem smallProject_conserves_sources :
    (SmallProject.tree.plan (.ofString ".") .default).result = .ok SmallProject.plan ∧
      (∃ invs, (SmallProject.tree.scan (.ofString ".") "lib" false).result = .ok invs ∧
        Conserves SmallProject.plan.archives invs) ∧
      ∃ invs, (SmallProject.tree.scan (.ofString ".") "src" false).result = .ok invs ∧
        Conserves SmallProject.plan.modules invs :=
  ⟨SmallProject.plan_eq, plan_conserves_sources SmallProject.plan_eq⟩

end NativeBuild
