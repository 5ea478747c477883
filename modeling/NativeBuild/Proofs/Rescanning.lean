import NativeBuild.Proofs.Contents
import NativeBuild.Proofs.Planning
import NativeBuild.Proofs.Retracing

/-!
# Planning again in a tree that has changed

A plan looks at directories and at source files, and at nothing else. So a tree may change in all
other ways and have the same plan as before. `Tree.Resembles` says what may change in a tree without
links: there may be new directories where nothing was, and whatever is no source file may come, go
or become another.

A root that was a directory is found where it was (`Resembles.resolve_eq`), and one that is a new
directory has nothing in it that concerns a scan. For that to be so a root must not go up again from
a directory that was missing (`Resembles.resolve_back`). A walk meets the same source files as
before; it may only come to a new directory that it cannot enter. This has to be excluded
(`NewDirsFit`), and no less would do (`newDirsFit_of_plan`).

So a scan takes the same stock (`Resembles.scan_eq`), because inventories are determined by what is
in them (`eq_of_stocked_iff`), and the files have the directives that they had. Hence the plan is
the same (`Resembles.plan_eq`).
-/

namespace NativeBuild

/-! ### Inventories -/

/-- What is in stock under a directory is in its inventory. -/
theorem Stocked.mem_files {invs : List Inventory} (ha : Ascending Inventory.dir invs)
    {inv : Inventory} (hinv : inv ∈ invs) {f : SourceFile}
    (h : Stocked invs inv.dir f) : f ∈ inv.files := by
  obtain ⟨inv', hinv', hdir, hf⟩ := h
  exact ha.eq_of_key_eq hinv' hinv hdir ▸ hf

/-- Inventories are known by what they have in stock. -/
theorem mem_of_stocked_iff {invs invs' : List Inventory} (ha : Ascending Inventory.dir invs)
    (ha' : Ascending Inventory.dir invs') (hne : ∀ inv ∈ invs, inv.files ≠ [])
    (h : ∀ dir f, Stocked invs dir f ↔ Stocked invs' dir f) {inv : Inventory} (hinv : inv ∈ invs) :
    inv ∈ invs' := by
  obtain ⟨f, hf⟩ := List.exists_mem_of_ne_nil _ (hne inv hinv)
  obtain ⟨inv', hinv', hdir, -⟩ := (h _ _).1 ⟨inv, hinv, rfl, hf⟩
  have hfiles : inv.files = inv'.files := by
    refine inv.ascending.eq_of_mem_iff inv'.ascending fun g => ⟨fun hg => ?_, fun hg => ?_⟩
    · exact Stocked.mem_files ha' hinv' ((h _ _).1 ⟨inv, hinv, hdir.symm, hg⟩)
    · exact Stocked.mem_files ha hinv ((h _ _).2 ⟨inv', hinv', hdir, hg⟩)
  have heq : inv = inv' := by
    cases inv
    cases inv'
    simp_all
  exact heq ▸ hinv'

/-- **Inventories are determined by what is in stock**, if none of them is empty. -/
theorem eq_of_stocked_iff {invs invs' : List Inventory} (ha : Ascending Inventory.dir invs)
    (ha' : Ascending Inventory.dir invs') (hne : ∀ inv ∈ invs, inv.files ≠ [])
    (hne' : ∀ inv ∈ invs', inv.files ≠ [])
    (h : ∀ dir f, Stocked invs dir f ↔ Stocked invs' dir f) : invs = invs' :=
  ha.eq_of_mem_iff ha' fun _ =>
    ⟨mem_of_stocked_iff ha ha' hne h, mem_of_stocked_iff ha' ha hne' fun dir f => (h dir f).symm⟩

namespace Tree

variable {t t' : Tree} {l p q : Location} {links left : Nat} {last : Bool} {steps : List Path.Step}

/-! ### The way to a directory -/

/-- Without links a step down goes on below. -/
theorem follow_down_of_noLinks (hlinks : t.NoLinks) {b : Bytes} {rest : List Path.Step}
    (h : t.follow last links l (.down b :: rest) = .ok ⟨.occupied q, left⟩) :
    ∃ n, Name.ofBytes? b = some n ∧
      t.follow last links (l ++ [n]) rest = .ok ⟨.occupied q, left⟩ := by
  obtain ⟨n, e, hb, hget⟩ := exists_get?_of_follow_down h
  have hlink : ∀ target, e ≠ .link target := by
    rintro target rfl
    exact hlinks _ target hget
  rw [follow_down_of_get? (isDir_of_follow h) hb hget hlink] at h
  exact ⟨n, hb, h⟩

/-- Without links **the way to a directory** goes through directories alone. -/
theorem follow_of_dirs (hlinks : t.NoLinks) (hdirs : ∀ k, t.isDir k = true → t'.isDir k = true)
    (h : t.follow last links l steps = .ok ⟨.occupied q, left⟩) (hq : t.isDir q = true) :
    t'.follow last links l steps = .ok ⟨.occupied q, left⟩ := by
  refine follow_of_kept hdirs (fun k target hget => absurd hget (hlinks k target))
    (fun e he => ?_) h
  obtain rfl := Option.some.inj (he.symm.trans (decide_eq_true_iff.1 hq))
  exact decide_eq_true_iff.1 (hdirs q hq)

/-- Without links and **without steps up**, the way to what was a directory before went through
directories then. -/
theorem follow_back (hlinks' : t'.NoLinks) (hup : Path.Step.up ∉ steps)
    (h : t'.follow true links p steps = .ok ⟨.occupied q, left⟩) (hq : t.isDir q = true) :
    p <+: q ∧ t.follow true links p steps = .ok ⟨.occupied q, left⟩ := by
  -- without steps up all places on the way are above its end
  have habove : ∀ k, k <+: q → t.isDir k = true := by
    intro k hk
    by_cases heq : k = q
    · exact heq ▸ hq
    · exact isDir_above (decide_eq_true_iff.1 hq) hk heq
  induction steps generalizing p with
  | nil =>
    have hpq := eq_of_follow_nil h
    rw [follow] at h ⊢
    exact ⟨hpq ▸ List.prefix_refl _, h⟩
  | cons step rest ih =>
    rw [List.mem_cons, not_or] at hup
    have hp' := isDir_of_follow h
    cases step with
    | here =>
      rw [follow, if_pos hp'] at h
      obtain ⟨hpq, hf⟩ := ih hup.2 h
      rw [follow, if_pos (habove p hpq)]
      exact ⟨hpq, hf⟩
    | up => exact absurd rfl hup.1
    | down b =>
      obtain ⟨n, hb, hrest⟩ := follow_down_of_noLinks hlinks' h
      obtain ⟨hnq, hf⟩ := ih hup.2 hrest
      have hpq : p <+: q := (List.prefix_append p [n]).trans hnq
      have hget : t.get? (p ++ [n]) = some .dir := decide_eq_true_iff.1 (habove _ hnq)
      rw [follow_down_of_get? (habove p hpq) hb hget (by simp)]
      exact ⟨hpq, hf⟩

/-! ### Trees that resemble each other -/

/-- A tree **resembles** an earlier one if a scan cannot tell them apart, except by new
directories. -/
structure Resembles (t t' : Tree) : Prop where
  noLinks : t.NoLinks
  noLinks' : t'.NoLinks
  keepsDirs : ∀ k, t.isDir k = true → t'.isDir k = true
  newDirs : ∀ k, t'.isDir k = true → t.isDir k = false → t.get? k = none
  sources : ∀ (d : Location) (s : SourceNames) content mode,
    t'.get? (d ++ s.names) = some (.file content mode) ↔
    t.get? (d ++ s.names) = some (.file content mode)

/-- The directories that **are new** below a root can be entered: their paths, spelled from the
project and the root, are not too long. -/
def NewDirsFit (t t' : Tree) (project : Path) (root : String) : Prop :=
  ∀ l left d, t'.resolve (rootPath project root) = .ok (l, left) → d ≠ [] →
    t'.isDir (l ++ d) = true →
    t.isDir (l ++ d) = false → (WalkFault.pathFrom (rootPath project root) d).fits = true

/-- Where there is a plan, **all new directories can be entered**. -/
theorem newDirsFit_of_plan {project : Path} {config : Config} {p : BuildPlan} (hlinks' : t'.NoLinks)
    (hplan : (t'.plan project config).result = .ok p) :
    ∀ root ∈ [config.archiveRoot, config.moduleRoot], t.NewDirsFit t' project root := by
  -- a scan goes through only if it can enter every directory below its root
  have hfits : ∀ root followLinks invs, (t'.scan project root followLinks).result = .ok invs →
      t.NewDirsFit t' project root := by
    intro root followLinks invs hscan l left d hr hd hnow _
    have hdir : t'.isDir l = true :=
      isDir_above (decide_eq_true_iff.1 hnow) (List.prefix_append l d) (by simpa using hd)
    exact reachable_of_result_walk hlinks' (found_of_scan hscan hr hdir).2 hd hnow
  obtain ⟨-, -, harchives, ms, hms, -⟩ := plan_eq_ok_iff.1 hplan
  obtain ⟨invs, hscan, -⟩ := targetsOf_eq_ok_iff.1 harchives
  obtain ⟨invs', hscan', -⟩ := targetsOf_eq_ok_iff.1 hms
  intro root hroot
  rcases List.mem_cons.1 hroot with rfl | hroot
  · exact hfits _ _ _ hscan
  · obtain rfl := List.mem_singleton.1 hroot
    exact hfits _ _ _ hscan'

namespace Resembles

variable {project path : Path} {root : String} {followLinks : Bool} {invs : List Inventory}
  (h : t.Resembles t')

include h

/-- A path leads to the directory that it led to. -/
theorem resolve_eq (hr : t.resolve path = .ok (l, left)) (hl : t.isDir l = true) :
    t'.resolve path = .ok (l, left) := by
  obtain ⟨hfault, hf⟩ := resolve_eq_ok_iff.1 hr
  exact resolve_eq_ok_iff.2 ⟨hfault, follow_of_dirs h.noLinks h.keepsDirs hf hl⟩

/-- A root that is a directory now, and that was a directory of the same place, was the root
before. -/
theorem resolve_back (hroot : checkRoot root = .ok ())
    (hup : Path.Step.up ∉ (Path.ofString root).steps)
    (hproject : ∃ d, t.Reaches project.steps d ∧ t.isDir d = true)
    (hr : t'.resolve (rootPath project root) = .ok (l, left)) (hl : t.isDir l = true) :
    t.resolve (rootPath project root) = .ok (l, left) := by
  obtain ⟨hfault, hf⟩ := resolve_eq_ok_iff.1 hr
  obtain ⟨d, ⟨k, hd⟩, hdir⟩ := hproject
  refine resolve_eq_ok_iff.2 ⟨hfault, ?_⟩
  rw [Path.walk_of_bare (bare_rootPath hroot), steps_rootPath hroot,
    follow_append (Or.inl rfl)] at hf ⊢
  -- the project is where it was, and from there the root only goes down
  rw [follow_of_dirs h.noLinks h.keepsDirs hd hdir] at hf
  rw [hd]
  exact (follow_back h.noLinks' (fun hmem => hup (mem_steps_of_mem_steps_trimRoot hmem)) hf hl).2

/-- The same sources are found, -/
theorem fileAt_iff (s : SourceNames) : t'.FileAt followLinks links l s.names ↔
    t.FileAt followLinks links l s.names := by
  rw [fileAt_iff_of_noLinks h.noLinks', fileAt_iff_of_noLinks h.noLinks]
  exact exists_congr fun content => exists_congr fun mode => h.sources l s content mode

/-- and so the same files clash. -/
theorem clash_iff (s s' : SourceNames) : t'.Clash followLinks links l s s' ↔
    t.Clash followLinks links l s s' := by
  rw [Clash, Clash, h.fileAt_iff s, h.fileAt_iff s']

/-- There are no source files in a new directory. -/
theorem not_fileAt (hl' : t'.isDir l = true) (hl : t.isDir l = false) (s : SourceNames) :
    ¬ t'.FileAt followLinks links l s.names := by
  rw [h.fileAt_iff, fileAt_iff_of_noLinks h.noLinks]
  rintro ⟨content, mode, hget⟩
  have hnone := h.newDirs l hl' hl
  rw [get?_eq_none_below hl (List.prefix_append l s.names) (by simp [SourceNames.names])] at hget
  simp at hget

/-- **A source file reads as it did**, whether it can be read or not. -/
theorem directivesAt_eq {base : Path} (hb : base.Bare) (hr : t.resolve base = .ok (l, links))
    (hr' : t'.resolve base = .ok (l, links)) {s : SourceNames}
    (hs : t.FileAt followLinks links l s.names) :
    t'.directivesAt (WalkFault.pathFrom base s.names) =
      t.directivesAt (WalkFault.pathFrom base s.names) := by
  obtain ⟨content, mode, hget⟩ := (fileAt_iff_of_noLinks h.noLinks).1 hs
  have hget' := (h.sources l s content mode).2 hget
  rw [directivesAt_of_get? h.noLinks hb hr hget, directivesAt_of_get? h.noLinks' hb hr' hget']

/-! ### Scans and plans -/

section Scan

variable (hproject : ∃ d, t.Reaches project.steps d ∧ t.isDir d = true)
  (hup : Path.Step.up ∉ (Path.ofString root).steps) (hfits : t.NewDirsFit t' project root)

include hproject hup hfits

/-- **A scan takes the same stock.** -/
theorem scan_eq (hscan : (t.scan project root followLinks).result = .ok invs) :
    (t'.scan project root followLinks).result = .ok invs := by
  obtain ⟨hroot, hcases⟩ := scan_eq_ok_iff.1 hscan
  -- where no directory was there was nothing in stock
  have hempty : (∀ l left, t'.resolve (rootPath project root) = .ok (l, left) → t.isDir l = false) →
      invs = [] := by
    intro hnone
    rcases hcases with ⟨-, rfl⟩ | ⟨l, left, hr, hdir, -⟩
    · rfl
    · exact absurd hdir (by simp [hnone l left (h.resolve_eq hr hdir)])
  by_cases hr' : ∃ l left, t'.resolve (rootPath project root) = .ok (l, left) ∧ t'.isDir l = true
  · obtain ⟨l, left, hr', hdir'⟩ := hr'
    have hback : t.isDir l = true → t.resolve (rootPath project root) = .ok (l, left) :=
      h.resolve_back hroot hup hproject hr'
    -- directories that were there were reachable, and the new ones fit
    have hwalk' :
        (t'.walk (reachable (rootPath project root)) followLinks l left).result = .ok () := by
      refine result_walk_of_reachable h.noLinks' fun d hd hnow => ?_
      by_cases hbefore : t.isDir (l ++ d) = true
      · have hdir : t.isDir l = true :=
          isDir_above (decide_eq_true_iff.1 hbefore) (List.prefix_append l d) (by simpa using hd)
        exact reachable_of_result_walk h.noLinks (found_of_scan hscan (hback hdir) hdir).2
          hd hbefore
      · exact hfits l left d hr' hd hnow (by simpa using hbefore)
    have hclash : ∀ s s', ¬ t'.Clash followLinks left l s s' := by
      intro s s' hc
      by_cases hdir : t.isDir l = true
      · exact not_clash_of_scan hscan (hback hdir) hdir s s' ((h.clash_iff s s').1 hc)
      · exact h.not_fileAt hdir' (by simpa using hdir) s hc.2.1
    obtain ⟨invs', hscan'⟩ := scan_of_not_clash hroot hr' hdir' hwalk' hclash
    -- if the root is new itself there is no source below it
    have hstock : ∀ dir f, Stocked invs' dir f ↔ Stocked invs dir f := by
      intro dir f
      rw [stocked_iff_of_scan hscan' hr' hdir']
      by_cases hdir : t.isDir l = true
      · rw [stocked_iff_of_scan hscan (hback hdir) hdir]
        exact exists_congr fun s => and_congr_left fun _ => h.fileAt_iff s
      · have hnil : invs = [] := by
          refine hempty fun k left' hk => ?_
          obtain ⟨rfl, -⟩ := Prod.mk.inj (Except.ok.inj (hr'.symm.trans hk))
          simpa using hdir
        rw [hnil]
        refine iff_of_false ?_ (stocked_nil dir f)
        rintro ⟨s, hs, -⟩
        exact h.not_fileAt hdir' (by simpa using hdir) s hs
    have heq : invs' = invs :=
      eq_of_stocked_iff (ascending_of_scan hscan') (ascending_of_scan hscan)
      (files_ne_nil_of_scan hscan') (files_ne_nil_of_scan hscan) hstock
    exact heq ▸ hscan'
  · -- the root is no directory now, and so it was none
    simp only [not_exists, not_and, Bool.not_eq_true] at hr'
    have hnil : invs = [] := by
      refine hempty fun l left hl => ?_
      by_contra hdir
      have hnow := h.keepsDirs l (by simpa using hdir)
      rw [hr' l left hl] at hnow
      exact Bool.false_ne_true hnow
    rw [hnil]
    exact scan_of_missing hroot hr'

/-- **The targets of a root are the same.** -/
theorem targetsOf_eq {config : Config} {kind : TargetKind} {ts : List Target}
    (ht : (t.targetsOf project config root kind).result = .ok ts) :
    (t'.targetsOf project config root kind).result = .ok ts := by
  obtain ⟨invs, hscan, hanswered, rfl⟩ := targetsOf_eq_ok_iff.1 ht
  have hscan' := h.scan_eq hproject hup hfits hscan
  -- sources are read as before
  have hdirectives : ∀ inv ∈ invs, ∀ f ∈ inv.files, t'.directivesOf f = t.directivesOf f := by
    intro inv hinv f hf
    obtain ⟨hroot, ⟨-, rfl⟩ | ⟨l, links, hr, hdir, -⟩⟩ := scan_eq_ok_iff.1 hscan
    · exact absurd hinv List.not_mem_nil
    · obtain ⟨s, hs, -, rfl⟩ := (stocked_iff_of_scan hscan hr hdir).1 ⟨inv, hinv, rfl, hf⟩
      exact h.directivesAt_eq (bare_rootPath hroot) hr (h.resolve_eq hr hdir) hs
  refine targetsOf_eq_ok_iff.2 ⟨invs, hscan', fun inv hinv f hf => ?_,
    List.flatMap_congr fun inv hinv => ?_⟩
  · rw [hdirectives inv hinv f hf]
    exact hanswered inv hinv f hf
  · exact Inventory.targets_congr fun f hf => (hdirectives inv hinv f hf).symm

end Scan

/-- **The plan is the same**, if each directory that is new below a root can be entered. -/
theorem plan_eq {config : Config} {p : BuildPlan}
    (hproject : ∃ d, t.Reaches project.steps d ∧ t.isDir d = true)
    (hup : ∀ root ∈ [config.archiveRoot, config.moduleRoot],
      Path.Step.up ∉ (Path.ofString root).steps)
    (hfits : ∀ root ∈ [config.archiveRoot, config.moduleRoot], t.NewDirsFit t' project root)
    (hplan : (t.plan project config).result = .ok p) : (t'.plan project config).result = .ok p := by
  have harchive : config.archiveRoot ∈ [config.archiveRoot, config.moduleRoot] := by simp
  have hmodule : config.moduleRoot ∈ [config.archiveRoot, config.moduleRoot] := by simp
  obtain ⟨hcheck, hcheck', harchives, ms, hms, hmodules⟩ := plan_eq_ok_iff.1 hplan
  refine plan_eq_ok_iff.2 ⟨hcheck, hcheck', ?_, ms, ?_, hmodules⟩
  · exact h.targetsOf_eq hproject (hup _ harchive) (hfits _ harchive) harchives
  · exact h.targetsOf_eq hproject (hup _ hmodule) (hfits _ hmodule) hms

end Resembles

end Tree

end NativeBuild
