import NativeBuild.Proofs.Conservation
import NativeBuild.Proofs.Objects
import NativeBuild.Proofs.Rescanning

/-!
# Sources inside the project

A source root is checked by its first character alone, and the rest of it may go up again. So a root
that is accepted may lead out of the project: `a/../../secret` does, from a project that has a
directory `a` (`EscapingProject.root_escapes`).

Which files are taken then is a matter of where the root leads. In a tree without links a file that
is found below a root lies below the directory that the root leads to, `.` and `..` resolved
(`Tree.exists_reaches_of_scan`). So the files lie inside the project if the root does
(`Tree.RootInside`), and none of them does if the root leads past the project (`Tree.RootPast`).
This is said of scans and of plans in `Tree.sources_inside`.

For a root to lead inside it is enough that at no point of it there have been more steps up than
steps down (`StaysBelow`), whatever the project is and whatever else is in the tree. The proof
follows the steps and keeps how deep below the project they are: `prefix_of_staysBelowFrom`, from
one lemma for each kind of step.
-/

namespace NativeBuild

/-! ### Steps that stay below -/

/-- Does the step go down? -/
def Path.Step.isDown : Path.Step → Bool
  | .down _ => true
  | .here | .up => false

/-- Steps **stay below** a place that lies `depth` levels above where they start: no beginning of
them goes up more often than down and `depth` times. -/
def StaysBelowFrom (depth : Nat) (steps : List Path.Step) : Prop :=
  ∀ front ∈ steps.inits, front.count .up ≤ depth + front.countP Path.Step.isDown

/-- Steps **stay below** where they start. -/
def StaysBelow (steps : List Path.Step) : Prop := StaysBelowFrom 0 steps

instance (depth : Nat) (steps : List Path.Step) : Decidable (StaysBelowFrom depth steps) :=
  inferInstanceAs (Decidable (∀ front ∈ steps.inits, _))

instance (steps : List Path.Step) : Decidable (StaysBelow steps) :=
  inferInstanceAs (Decidable (StaysBelowFrom 0 steps))

section Steps

variable {depth : Nat} {steps : List Path.Step}

/-- Steps behind a first one are counted together with it. -/
theorem staysBelowFrom_cons_iff {step : Path.Step} : StaysBelowFrom depth (step :: steps) ↔
    ∀ front ∈ steps.inits,
      (step :: front).count .up ≤ depth + (step :: front).countP Path.Step.isDown := by
  rw [StaysBelowFrom, List.inits_cons, List.forall_mem_cons, List.forall_mem_map]
  -- the empty beginning goes nowhere
  exact and_iff_right (Nat.zero_le _)

/-- Staying where one is changes nothing. -/
theorem StaysBelowFrom.of_here (h : StaysBelowFrom depth (.here :: steps)) :
    StaysBelowFrom depth steps := by
  intro front hfront
  have hcount := staysBelowFrom_cons_iff.1 h front hfront
  rwa [List.count_cons_of_ne (by decide), List.countP_cons_of_neg (by decide)] at hcount

/-- A step down makes room for one more step up. -/
theorem StaysBelowFrom.of_down {b : Bytes} (h : StaysBelowFrom depth (.down b :: steps)) :
    StaysBelowFrom (depth + 1) steps := by
  intro front hfront
  have hcount := staysBelowFrom_cons_iff.1 h front hfront
  rw [List.count_cons_of_ne (by simp), List.countP_cons_of_pos rfl] at hcount
  omega

/-- A step up needs a level to go up. -/
theorem StaysBelowFrom.of_up (h : StaysBelowFrom depth (.up :: steps)) :
    ∃ above, depth = above + 1 ∧ StaysBelowFrom above steps := by
  have hcount : ∀ front ∈ steps.inits,
      front.count .up + 1 ≤ depth + front.countP Path.Step.isDown := by
    intro front hfront
    have hcons := staysBelowFrom_cons_iff.1 h front hfront
    rwa [List.count_cons_self, List.countP_cons_of_neg (by decide)] at hcons
  -- the first step alone is a beginning too
  have hdepth : 0 + 1 ≤ depth + 0 := hcount [] (by simp)
  obtain ⟨above, rfl⟩ := Nat.exists_eq_add_one_of_ne_zero (show depth ≠ 0 by omega)
  refine ⟨above, rfl, fun front hfront => ?_⟩
  have hrest := hcount front hfront
  omega

end Steps

/-- Separators at the end make no further run. -/
theorem Text.runs_append_of_forall {α : Type} {sep : α → Bool} {r : List α}
    (h : ∀ a ∈ r, sep a = true) (l : List α) : runs sep (l ++ r) = runs sep l := by
  induction r generalizing l with
  | nil => rw [List.append_nil]
  | cons a r ih =>
    obtain ⟨ha, hr⟩ := List.forall_mem_cons.1 h
    have hnil : runs sep r = [] := ih hr []
    rw [runs_append_sep ha, hnil, List.append_nil]

/-- The slashes at the end of a root are no steps. -/
theorem steps_trimRoot (root : String) :
    (Path.ofString (trimRoot root)).steps = (Path.ofString root).steps := by
  -- what is trimmed off are slashes, which are one byte each
  have hroot : root.toList = (trimRoot root).toList ++ root.toList.rtakeWhile (· = '/') := by
    rw [toList_trimRoot, List.rdropWhile_append_rtakeWhile]
  have hslashes : ∀ b ∈ Utf8.encode (root.toList.rtakeWhile (· = '/')),
      (b == Path.slash) = true := by
    intro b hb
    obtain ⟨c, hc, hbc⟩ := List.mem_flatMap.1 hb
    obtain rfl : c = '/' := by simpa using List.mem_rtakeWhile_imp hc
    have hbytes : String.utf8EncodeChar '/' = [Path.slash] := rfl
    rw [hbytes, List.mem_singleton] at hbc
    rw [hbc, beq_self_eq_true]
  -- and at the end of a path these make no component
  have hcomponents :
      (Path.ofString root).components = (Path.ofString (trimRoot root)).components := by
    calc (Path.ofString root).components
        = Text.runs (· == Path.slash)
            (Utf8.encode ((trimRoot root).toList ++ root.toList.rtakeWhile (· = '/'))) := by
          rw [← hroot]
          rfl
      _ = Text.runs (· == Path.slash) (Utf8.encode (trimRoot root).toList) := by
          rw [Utf8.encode_append, Text.runs_append_of_forall hslashes]
  rw [Path.steps, Path.steps, hcomponents]

namespace Tree

variable {t : Tree} {project : Path} {root : String} {home l q : Location} {links left : Nat}

/-! ### Following steps that stay below -/

/-- **Steps that stay below a directory lead below it**, if no link leads elsewhere; `d` is where
they start, as seen from the directory. -/
theorem prefix_of_staysBelowFrom (hlinks : t.NoLinks) {d : List Name} {steps : List Path.Step}
    (hstays : StaysBelowFrom d.length steps)
    (h : t.follow true links (home ++ d) steps = .ok ⟨.occupied q, left⟩) : home <+: q := by
  -- on the steps; `d` are the names that have been gone down from the project by now
  induction steps generalizing d with
  | nil =>
    rw [← eq_of_follow_nil h]
    exact List.prefix_append home d
  | cons step rest ih =>
    have hdir := isDir_of_follow h
    cases step with
    | here =>
      rw [follow, if_pos hdir] at h
      exact ih hstays.of_here h
    | up =>
      -- there is a level to go up, so the step stays below
      obtain ⟨above, hlength, hrest⟩ := hstays.of_up
      have hne : d ≠ [] := List.ne_nil_of_length_pos (by omega)
      rw [follow, if_pos hdir, List.dropLast_append_of_ne_nil hne] at h
      refine ih ?_ h
      have habove : d.dropLast.length = above := by
        rw [List.length_dropLast, hlength, Nat.add_sub_cancel]
      rwa [habove]
    | down b =>
      obtain ⟨n, -, hrest⟩ := follow_down_of_noLinks hlinks h
      rw [List.append_assoc] at hrest
      refine ih ?_ hrest
      rw [List.length_append, List.length_singleton]
      exact hstays.of_down

/-! ### Where roots lead -/

/-- A path names a **file inside a directory** that another path leads to, `.` and `..` resolved in
both. -/
def FileInside (t : Tree) (project file : Path) : Prop :=
  ∃ home names content mode, t.Reaches project.steps home ∧ t.Reaches file.steps (home ++ names) ∧
    t.get? (home ++ names) = some (.file content mode)

/-- A root **leads inside** the project: to its directory or to one below. -/
def RootInside (t : Tree) (project : Path) (root : String) : Prop :=
  ∀ home l, t.Reaches project.steps home → t.Reaches (rootPath project root).steps l → home <+: l

/-- A root **leads past** the project: neither into it nor to a directory above it. -/
def RootPast (t : Tree) (project : Path) (root : String) : Prop :=
  ∀ home l, t.Reaches project.steps home → t.Reaches (rootPath project root).steps l →
    ¬ home <+: l ∧ ¬ l <+: home

/-- What leads along the path of a root leads along that of the project first. -/
theorem exists_reaches_of_rootPath (hroot : checkRoot root = .ok ())
    (h : t.Reaches (rootPath project root).steps l) :
    ∃ home links left, t.Reaches project.steps home ∧
      t.follow true links home (Path.ofString root).steps = .ok ⟨.occupied l, left⟩ := by
  obtain ⟨left, hf⟩ := h
  rw [steps_rootPath hroot, steps_trimRoot, follow_append (Or.inl rfl)] at hf
  split at hf
  · rename_i home links hhome
    exact ⟨home, links, left, ⟨links, hhome⟩, hf⟩
  · split at hf <;> simp at hf
  · simp at hf

/-- **A root that stays below leads inside**, in every tree without links. -/
theorem rootInside_of_staysBelow (hlinks : t.NoLinks) (hroot : checkRoot root = .ok ())
    (hstays : StaysBelow (Path.ofString root).steps) : t.RootInside project root := by
  intro home l hhome hl
  obtain ⟨home', links, left, hhome', hf⟩ := exists_reaches_of_rootPath hroot hl
  obtain rfl := hhome.eq hhome'
  rw [← List.append_nil home] at hf
  exact prefix_of_staysBelowFrom (d := []) hlinks hstays hf

/-! ### What a scan finds -/

/-- **A file that is found lies below the directory of the root.** -/
theorem exists_reaches_of_scan (hlinks : t.NoLinks) {followLinks : Bool} {invs : List Inventory}
    (h : (t.scan project root followLinks).result = .ok invs) {inv : Inventory} (hinv : inv ∈ invs)
    {f : SourceFile}
    (hf : f ∈ inv.files) : ∃ home l names content mode, t.Reaches project.steps home ∧
      t.Reaches (rootPath project root).steps l ∧ t.Reaches f.path.steps (l ++ names) ∧
      t.get? (l ++ names) = some (.file content mode) := by
  obtain ⟨hroot, ⟨-, rfl⟩ | ⟨l, links, hr, hdir, -⟩⟩ := scan_eq_ok_iff.1 h
  · exact absurd hinv List.not_mem_nil
  -- the file has been found, and so its names lead to it from the root
  obtain ⟨s, hs, -, rfl⟩ := (stocked_iff_of_scan h hr hdir).1 ⟨inv, hinv, rfl, hf⟩
  obtain ⟨content, mode, hget⟩ := (fileAt_iff_of_noLinks hlinks).1 hs
  have hl : t.follow true linkLimit [] (rootPath project root).steps = .ok ⟨.occupied l, links⟩ :=
    follow_of_resolve (bare_rootPath hroot) hr
  obtain ⟨home, -, -, hhome, -⟩ := exists_reaches_of_rootPath hroot ⟨links, hl⟩
  -- from the root the names lead straight down to the file
  have hfile : t.FileAt true links l s.names :=
    (fileAt_iff_of_noLinks hlinks).2 ⟨content, mode, hget⟩
  obtain ⟨p, left, -, -, hleads, -, -⟩ := hfile
  obtain rfl := eq_append_of_leads hlinks hleads
  refine ⟨home, l, s.names, content, mode, hhome, ⟨links, hl⟩, ⟨left, ?_⟩, hget⟩
  change t.follow true linkLimit [] (WalkFault.pathFrom (rootPath project root) s.names).steps = _
  rw [steps_pathFrom (bare_rootPath hroot), follow_append (Or.inl rfl), hl]
  exact hleads

/-- What is listed of a root inside the project lies inside it as well. -/
theorem fileInside_of_scan (hlinks : t.NoLinks) (hinside : t.RootInside project root)
    {followLinks : Bool} {invs : List Inventory}
    (h : (t.scan project root followLinks).result = .ok invs) {inv : Inventory} (hinv : inv ∈ invs)
    {f : SourceFile} (hf : f ∈ inv.files) : t.FileInside project f.path := by
  obtain ⟨home, l, names, content, mode, hhome, hl, hfile, hget⟩ :=
    exists_reaches_of_scan hlinks h hinv hf
  obtain ⟨d, rfl⟩ := hinside home l hhome hl
  rw [List.append_assoc] at hfile hget
  exact ⟨home, d ++ names, content, mode, hhome, hfile, hget⟩

/-- And what is listed of a root that is past it does not. -/
theorem not_fileInside_of_scan (hlinks : t.NoLinks) (hpast : t.RootPast project root)
    {followLinks : Bool} {invs : List Inventory}
    (h : (t.scan project root followLinks).result = .ok invs) {inv : Inventory} (hinv : inv ∈ invs)
    {f : SourceFile} (hf : f ∈ inv.files) : ¬ t.FileInside project f.path := by
  rintro ⟨home', d, -, -, hhome', hfile', -⟩
  obtain ⟨home, l, names, -, -, hhome, hl, hfile, -⟩ := exists_reaches_of_scan hlinks h hinv hf
  obtain rfl := hhome.eq hhome'
  have hplace : home ++ d = l ++ names := hfile'.eq hfile
  -- of two directories that a file is below one is below the other
  have hhomeBelow : home <+: l ++ names := hplace ▸ List.prefix_append home d
  rcases List.prefix_or_prefix_of_prefix hhomeBelow (List.prefix_append l names) with hin | hout
  · exact (hpast home l hhome hl).1 hin
  · exact (hpast home l hhome hl).2 hout

/-- The files of the targets of a root were found below it. -/
theorem exists_scan_of_mem_files {config : Config} {kind : TargetKind} {ts : List Target}
    (h : (t.targetsOf project config root kind).result = .ok ts) {x : Target} (hx : x ∈ ts)
    {f : SourceFile}
    (hf : f ∈ x.files) : ∃ invs, (t.scan project root config.followLinks).result = .ok invs ∧
      ∃ inv ∈ invs, f ∈ inv.files := by
  obtain ⟨invs, hscan, hconserves⟩ := conserves_targetsOf h
  have hmem : f ∈ ts.flatMap Target.files := List.mem_flatMap.2 ⟨x, hx, hf⟩
  rw [hconserves.files_eq] at hmem
  exact ⟨invs, hscan, List.mem_flatMap.1 hmem⟩

/-- **Sources lie inside the project if their roots do**, and a root that stays below does. -/
theorem sources_inside (hlinks : t.NoLinks) (project : Path) :
    (∀ root, checkRoot root = .ok () → StaysBelow (Path.ofString root).steps →
      t.RootInside project root) ∧
    (∀ root followLinks invs, (t.scan project root followLinks).result = .ok invs →
      (t.RootInside project root → ∀ inv ∈ invs, ∀ f ∈ inv.files, t.FileInside project f.path) ∧
      (t.RootPast project root → ∀ inv ∈ invs, ∀ f ∈ inv.files, ¬ t.FileInside project f.path)) ∧
    ∀ config p, (t.plan project config).result = .ok p → t.RootInside project config.archiveRoot →
      t.RootInside project config.moduleRoot → ∀ s ∈ p.sources,
        t.FileInside project s.file.path := by
  refine ⟨fun root hroot hstays => rootInside_of_staysBelow hlinks hroot hstays, ?_, ?_⟩
  · intro root followLinks invs h
    constructor
    · intro hinside inv hinv f hf
      exact fileInside_of_scan hlinks hinside h hinv hf
    · intro hpast inv hinv f hf
      exact not_fileInside_of_scan hlinks hpast h hinv hf
  · intro config p h harchive hmodule s hs
    obtain ⟨-, -, harchives, ms, hms, hmodules⟩ := plan_eq_ok_iff.1 h
    -- each source of the plan comes from the scan of one of the roots
    obtain ⟨x, hx, hsx⟩ := List.mem_flatMap.1 hs
    have hfile : s.file ∈ x.files := List.mem_map_of_mem hsx
    rcases List.mem_append.1 hx with hx | hx
    · obtain ⟨invs, hscan, inv, hinv, hf⟩ := exists_scan_of_mem_files harchives hx hfile
      exact fileInside_of_scan hlinks harchive hscan hinv hf
    · -- linking leaves the sources of a module as they are
      rw [hmodules] at hx
      obtain ⟨m, hm, rfl⟩ := List.mem_map.1 hx
      rw [Target.files_link] at hfile
      obtain ⟨invs, hscan, inv, hinv, hf⟩ := exists_scan_of_mem_files hms hm hfile
      exact fileInside_of_scan hlinks hmodule hscan hinv hf

end Tree

/-! ### A project with a neighbour -/

namespace EscapingProject

/-- A project `p` with an archive and a directory with nothing in it, and beside it a directory that
is no part of the project. -/
def tree : Tree where
  entries :=
    [([SmallProject.name "p"], .dir),
      ([SmallProject.name "p", SmallProject.name "a"], .dir),
      ([SmallProject.name "p", SmallProject.name "own"], .dir),
      ([SmallProject.name "p", SmallProject.name "own", SmallProject.name "y.c"],
        SmallProject.text ""),
      ([SmallProject.name "secret"], .dir),
      ([SmallProject.name "secret", SmallProject.name "k.c"], SmallProject.text "")]
  ascending := by
    unfold Ascending
    decide_cbv
  closed := SmallProject.closed_of_dropLast (by decide_cbv)

/-- The configuration with an archive root. -/
def config (root : String) : Config := { Config.default with archiveRoot := root }

theorem noLinks : tree.NoLinks := Tree.noLinks_of_entries (by simp [tree, SmallProject.text])

theorem reaches_project : tree.Reaches (Path.ofString "p").steps [SmallProject.name "p"] :=
  ⟨linkLimit, by cbv⟩

/-- The only file below a root. -/
def found (root name : String) : SourceFile :=
  ⟨.ofString ("p/" ++ root ++ "/" ++ name ++ ".c"), root ++ "/" ++ name ++ ".c", name, "c"⟩

/-- The inventory of a directory with one empty source file. -/
def inventory (root name : String) : Inventory :=
  ⟨"", [found root name], List.pairwise_singleton _ _⟩

/-- The archive that is made of it. -/
def archive (root name : String) : Target :=
  ⟨.archive, name, [⟨found root name, ⟨[], [], []⟩⟩], .plain, [], [], []⟩

/-- The root is walked, although it is not in the project. -/
theorem scan_out : (tree.scan (.ofString "p") "a/../../secret" false).result =
    .ok [inventory "a/../../secret" "k"] := by cbv

/-- Here the steps up come back to the project. -/
theorem scan_within : (tree.scan (.ofString "p") "a/../own" false).result =
    .ok [inventory "a/../own" "y"] := by cbv

theorem plan_out : (tree.plan (.ofString "p") (config "a/../../secret")).result =
    .ok ⟨[archive "a/../../secret" "k"], []⟩ := by cbv

theorem plan_within : (tree.plan (.ofString "p") (config "a/../own")).result =
    .ok ⟨[archive "a/../own" "y"], []⟩ := by cbv

/-- The root leads to the neighbour. -/
theorem rootPast : tree.RootPast (.ofString "p") "a/../../secret" := by
  intro home l hhome hl
  have hsecret :
      tree.Reaches (rootPath (.ofString "p") "a/../../secret").steps [SmallProject.name "secret"] :=
    ⟨linkLimit, by cbv⟩
  obtain rfl := hhome.eq reaches_project
  obtain rfl := hl.eq hsecret
  decide

/-- Neither root begins with a slash, and no more is asked of them. -/
theorem checkRoot_out : checkRoot "a/../../secret" = .ok () := by decide_cbv

theorem checkRoot_within : checkRoot "a/../own" = .ok () := by decide_cbv

theorem staysBelow_within : StaysBelow (Path.ofString "a/../own").steps := by decide_cbv

theorem staysBelow_src : StaysBelow (Path.ofString "src").steps := by decide_cbv

/-- **An accepted root may lead out of the project**: a file of its neighbour is found, and is a
source of the plan. -/
theorem root_escapes : tree.NoLinks ∧ checkRoot "a/../../secret" = .ok () ∧
    (∃ inv f, (tree.scan (.ofString "p") "a/../../secret" false).result = .ok [inv] ∧
      f ∈ inv.files ∧
      ¬ tree.FileInside (.ofString "p") f.path) ∧
    ∃ plan s, (tree.plan (.ofString "p") (config "a/../../secret")).result = .ok plan ∧
      s ∈ plan.sources ∧
      ¬ tree.FileInside (.ofString "p") s.file.path := by
  have hout : ¬ tree.FileInside (.ofString "p") (found "a/../../secret" "k").path :=
    Tree.not_fileInside_of_scan noLinks rootPast scan_out List.mem_cons_self List.mem_cons_self
  exact ⟨noLinks, checkRoot_out, ⟨_, _, scan_out, List.mem_cons_self, hout⟩,
    _, _, plan_out, List.mem_cons_self, hout⟩

/-- A root that goes up as well, and stays below: what is found there and planned lies inside the
project. -/
theorem root_stays : tree.NoLinks ∧ tree.RootInside (.ofString "p") "a/../own" ∧
    (∃ inv f, (tree.scan (.ofString "p") "a/../own" false).result = .ok [inv] ∧ f ∈ inv.files ∧
      tree.FileInside (.ofString "p") f.path) ∧
    (∃ inv f, (tree.scan (.ofString "p") "a/../../secret" false).result = .ok [inv] ∧
      f ∈ inv.files ∧
      ¬ tree.FileInside (.ofString "p") f.path) ∧
    ∃ plan s, (tree.plan (.ofString "p") (config "a/../own")).result = .ok plan ∧ s ∈ plan.sources ∧
      tree.FileInside (.ofString "p") s.file.path := by
  obtain ⟨hroots, hscans, hplans⟩ := Tree.sources_inside noLinks (.ofString "p")
  have hown : tree.RootInside (.ofString "p") "a/../own" :=
    hroots _ checkRoot_within staysBelow_within
  have hsrc : tree.RootInside (.ofString "p") "src" :=
    hroots _ LongProject.checkRoot_src staysBelow_src
  refine ⟨noLinks, hown, ⟨_, _, scan_within, List.mem_cons_self, ?_⟩,
    ⟨_, _, scan_out, List.mem_cons_self, ?_⟩, _, _, plan_within, List.mem_cons_self, ?_⟩
  · exact (hscans _ _ _ scan_within).1 hown _ List.mem_cons_self _ List.mem_cons_self
  · exact (hscans _ _ _ scan_out).2 rootPast _ List.mem_cons_self _ List.mem_cons_self
  · exact hplans _ _ plan_within hown hsrc _ List.mem_cons_self

end EscapingProject

end NativeBuild
