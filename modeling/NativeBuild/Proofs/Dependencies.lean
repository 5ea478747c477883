import NativeBuild.Proofs.Merging
import NativeBuild.Proofs.Namespace

/-!
# The dependencies of modules

A module has to be linked after the archives that its sources refer to. Which archives these are can
be said without the plan's own way of finding them: the sources of the module in order, the
references that each of them declares in order, every name at its first mention, and for each name
the archive that is called so (`Tree.declaredBy`, `BuildPlan.referred`). Names that no archive has
are left out.

`Tree.DependsOn` says that a module depends on exactly these archives: its prerequisites are their
output paths, each of which is what one rule of the fragment makes, printed before the stanza of the
module, and its link flags are what its own sources bring, followed by what the archives bring.
`plan_dependencies` proves it for every module of a plan.

Two lists without repetition meet here. That the prerequisites need no second look for equal ones is
due to the names of archives, which differ, and to output paths, which tell names apart
(`nodup_outputs_filterMap`).
-/

namespace NativeBuild

/-- What the sources of a target declare of a kind: source by source, and as each declares it. -/
def Tree.declaredBy (t : Tree) (x : Target) (k : DirectiveKind) : List String :=
  x.files.flatMap fun f => (answer (t.directivesOf f)).values k

/-- The link flags that the sources of a target bring: what each declares, and the runtime right
after it where the source needs it. -/
def Tree.ownFlags (t : Tree) (runtime : String) (x : Target) : List String :=
  (declared t.directivesOf x.files).flatMap (Target.broughtFlags runtime)

/-- The archives that names **refer** to, each at its first mention. -/
def BuildPlan.referred (p : BuildPlan) (names : List String) : List Target :=
  names.eraseDups.filterMap (p.find? .archive)

/-- **A module depends on archives**, on all of them and on nothing else. -/
structure Tree.DependsOn (t : Tree) (runtime : String) (p : BuildPlan) (m : Target)
    (as : List Target) : Prop where
  /-- Sources are listed by name. -/
  ascending : Ascending SourceFile.name m.files
  /-- The directives of all sources were read. -/
  answered : Answered t.directivesOf m.files
  prerequisites_eq : m.prerequisites = as.map Target.outputPath
  nodup_prerequisites : m.prerequisites.Nodup
  /-- Each prerequisite is made by one rule, which is an archive's and is printed first: a line that
  calls it in front of a colon, and a recipe. -/
  rule : ∀ path ∈ m.prerequisites, ∃ a ∈ p.archives,
    p.targets.filter (fun x => x.outputPath = path) = [a] ∧
    (∃ rest recipe, Fragment.linkRule a = (path ++ ": " ++ rest) :: recipe ∧
      ∀ line ∈ recipe, line.toList.head? = some '\t') ∧
    ∀ written, ∃ front middle back,
      Fragment.lines p written = front ++ Fragment.linkRule a ++ middle ++ Fragment.stanza m ++ back
  ldflags_eq : m.ldflags =
    (t.ownFlags runtime m ++ as.flatMap fun a => a.outputPath :: a.ldflags).eraseDups
  nodup_ldflags : m.ldflags.Nodup
  ldflags_mem : ∀ a ∈ as, a.outputPath ∈ m.ldflags ∧ ∀ flag ∈ a.ldflags, flag ∈ m.ldflags
  linker_iff : m.linker = .extended ↔ m.HasExtended ∨ ∃ a ∈ as, a.linker = .extended

section Plan

variable {t : Tree} {project : Path} {config : Config} {p : BuildPlan}

/-! ### What the table answers -/

/-- **The table answers** with what the archive of a name brings. -/
theorem get?_ofTargets (h : (t.plan project config).result = .ok p) (name : String) :
    (ArchiveTable.ofTargets p.archives).get? name =
      (p.find? .archive name).map ArchiveEntry.ofTarget := by
  have hkinds : ∀ a ∈ p.archives, a.kind = .archive := fun a => kind_of_mem_plan h .archive
  have hnames : (p.archives.map Target.name).Nodup := nodup_names_of_plan h .archive
  refine Option.ext fun e => ?_
  rw [ArchiveTable.get?_ofTargets_iff hkinds hnames, Option.map_eq_some_iff]
  constructor
  · rintro ⟨a, ha, hname, rfl⟩
    exact ⟨a, (find?_key_eq_some_iff hnames).2 ⟨ha, hname⟩, rfl⟩
  · rintro ⟨a, ha, rfl⟩
    obtain ⟨ha, hname⟩ := (find?_key_eq_some_iff hnames).1 ha
    exact ⟨a, ha, hname, rfl⟩

/-- What is found by a name is an archive of the plan that has it. -/
theorem mem_archives_of_find? {name : String} {a : Target} (h : p.find? .archive name = some a) :
    a ∈ p.archives ∧ a.name = name :=
  ⟨List.mem_of_find?_eq_some h, by simpa using List.find?_some h⟩

/-- Different names refer to archives with different output paths. -/
theorem nodup_outputs_filterMap {names : List String} (h : names.Nodup) :
    ((names.filterMap (p.find? .archive)).map Target.outputPath).Nodup := by
  rw [List.map_filterMap]
  refine List.Nodup.filterMap (fun n n' path hn hn' => ?_) h
  obtain ⟨a, ha, rfl⟩ := Option.map_eq_some_iff.1 hn
  obtain ⟨a', ha', he⟩ := Option.map_eq_some_iff.1 hn'
  -- the path tells the name of the archive, which is what it was found by
  have hname := (Target.outputPath_inj he).2
  rw [(mem_archives_of_find? ha).2, (mem_archives_of_find? ha').2] at hname
  exact hname.symm

/-! ### Rules and stanzas -/

/-- **The rule of a target** calls what it makes in front of a colon, and goes on with its
recipe. -/
theorem exists_linkRule_eq (x : Target) : ∃ rest recipe,
    Fragment.linkRule x = (x.outputPath ++ ": " ++ rest) :: recipe ∧
      ∀ line ∈ recipe, line.toList.head? = some '\t' := by
  rw [Fragment.linkRule]
  cases x.kind
  · exact ⟨_, _, rfl, by simp [Fragment.makeDirectory]⟩
  · refine ⟨_, _, congrArg (· :: _) (String.append_assoc), ?_⟩
    simp [Fragment.makeDirectory]

/-- **The rule of an archive is printed before the stanza of a module.** -/
theorem exists_lines_eq {a m : Target} (ha : a ∈ p.archives) (hm : m ∈ p.modules)
    (written : Timestamp) :
    ∃ front middle back, Fragment.lines p written =
      front ++ Fragment.linkRule a ++ middle ++ Fragment.stanza m ++ back := by
  obtain ⟨as₁, as₂, has⟩ := List.append_of_mem ha
  obtain ⟨ms₁, ms₂, hms⟩ := List.append_of_mem hm
  -- the stanza of the archive is its rule and what stands in front of it
  let head := ("# " ++ a.kind.word ++ " " ++ a.name) ::
    (Fragment.assignments a ++ a.sources.flatMap Fragment.overrideLines)
  have hstanza : Fragment.stanza a = head ++ Fragment.linkRule a := by
    rw [Fragment.stanza, List.cons_append]
  let block := fun x : Target => Fragment.stanza x ++ [""]
  refine ⟨Fragment.header written ++ Fragment.defaultLines ++
      Fragment.compileRules.flatMap Fragment.CompileRule.lines ++ as₁.flatMap block ++ head,
    [""] ++ as₂.flatMap block ++ ms₁.flatMap block,
    [""] ++ ms₂.flatMap block ++
      [Fragment.assignment Fragment.manifestVariable (p.modules.map Target.name)], ?_⟩
  rw [Fragment.lines, BuildPlan.targets, has, hms]
  simp only [List.flatMap_append, List.flatMap_cons, hstanza, List.append_assoc, block]

/-- Of elements with different keys one has the key of a given one. -/
theorem filter_key_eq {α β : Type} [DecidableEq β] {key : α → β} {xs : List α}
    (h : (xs.map key).Nodup) {x : α} (hx : x ∈ xs) : (xs.filter fun y => key y = key x) = [x] := by
  -- on the list, of which the element is the first or one of the others
  induction xs with
  | nil => exact absurd hx List.not_mem_nil
  | cons y ys ih =>
    rw [List.map_cons, List.nodup_cons] at h
    rcases List.mem_cons.1 hx with rfl | hx
    · have hrest : (ys.filter fun y => key y = key x) = [] := by
        rw [List.filter_eq_nil_iff]
        intro z hz he
        exact h.1 (of_decide_eq_true he ▸ List.mem_map_of_mem hz)
      rw [List.filter_cons_of_pos (by simp), hrest]
    · have hne : key y ≠ key x := fun he => h.1 (he ▸ List.mem_map_of_mem hx)
      rw [List.filter_cons_of_neg (by simpa using hne), ih h.2 hx]

/-- Where all parts of a piece are alike, whole pieces are filtered. -/
theorem filter_flatMap_of_alike {α β : Type} {f : α → List β} {p : β → Bool} {q : α → Bool}
    {xs : List α}
    (h : ∀ x ∈ xs, ∀ y ∈ f x, p y = q x) : (xs.flatMap f).filter p = (xs.filter q).flatMap f := by
  -- what comes from one element stays or goes as a whole
  induction xs with
  | nil => rfl
  | cons x xs ih =>
    rw [List.forall_mem_cons] at h
    rw [List.flatMap_cons, List.filter_append, ih h.2]
    cases hq : q x with
    | true =>
      rw [List.filter_cons_of_pos hq, List.flatMap_cons,
        List.filter_eq_self.2 fun y hy => (h.1 y hy).trans hq]
    | false =>
      have hnone : (f x).filter p = [] :=
        List.filter_eq_nil_iff.2 fun y hy => by simp [h.1 y hy, hq]
      rw [List.filter_cons_of_neg (by simp [hq]), hnone, List.nil_append]

/-- **One target of a plan makes an output path.** -/
theorem filter_outputPath_eq (h : (t.plan project config).result = .ok p) {a : Target}
    (ha : a ∈ p.targets) : p.targets.filter (fun x => x.outputPath = a.outputPath) = [a] :=
  filter_key_eq (nodup_outputs_of_plan h) ha

/-! ### Modules -/

/-- What a target of a root has before it is linked. -/
theorem unlinked_of_targetsOf {root : String} {kind : TargetKind} {ts : List Target}
    (hts : (t.targetsOf project config root kind).result = .ok ts) {x : Target} (hx : x ∈ ts) :
    Ascending SourceFile.name x.files ∧ Answered t.directivesOf x.files ∧
      x.reflibs = (t.declaredBy x .reflibs).eraseDups ∧
      x.ldflags = (t.ownFlags config.runtime x).eraseDups ∧ x.prerequisites = [] := by
  -- the target is what its sources make of an empty one
  obtain ⟨hascend, hasked, hmerged⟩ := eq_addFiles_of_targetsOf hts hx
  refine ⟨hascend, hasked, ?_, ?_, ?_⟩
  · have hreflibs : x.reflibs =
        addAllUnique [] ((declared t.directivesOf x.files).flatMap fun y =>
          y.2.values .reflibs) := by
      conv_lhs => rw [hmerged, Target.reflibs_addFiles]
      rfl
    rw [hreflibs, addAllUnique_nil, declared, List.flatMap_map, Tree.declaredBy]
  · have hflags : x.ldflags = addAllUnique [] (t.ownFlags config.runtime x) := by
      conv_lhs => rw [hmerged, Target.ldflags_addFiles]
      rfl
    rw [hflags, addAllUnique_nil]
  · rw [hmerged, Target.prerequisites_addFiles]
    rfl

/-- **What linking a module gives**: to what its own sources bring, the archives that they refer
to. -/
theorem link_of_targetsOf (h : (t.plan project config).result = .ok p) {ms : List Target}
    (hms : (t.targetsOf project config config.moduleRoot .module).result = .ok ms) {x : Target}
    (hx : x ∈ ms) {as : List Target} (has : as = p.referred (t.declaredBy x .reflibs)) :
    x.reflibs.filterMap (ArchiveTable.ofTargets p.archives).get? = as.map ArchiveEntry.ofTarget ∧
      (∀ a ∈ as, a ∈ p.archives) ∧ (as.map Target.outputPath).Nodup ∧
      (x.link (.ofTargets p.archives)).prerequisites = as.map Target.outputPath ∧
      (x.link (.ofTargets p.archives)).ldflags =
        (t.ownFlags config.runtime x ++ as.flatMap fun a => a.outputPath ::
          a.ldflags).eraseDups := by
  obtain ⟨-, -, hreflibs, hflags, hprerequisites⟩ := unlinked_of_targetsOf hms hx
  -- the table finds the archives that are referred to, in this order
  have hfound : x.reflibs.filterMap (ArchiveTable.ofTargets p.archives).get? =
      as.map ArchiveEntry.ofTarget := by
    rw [has, hreflibs, BuildPlan.referred, List.map_filterMap]
    exact List.filterMap_congr fun name _ => get?_ofTargets h name
  have hmem : ∀ a ∈ as, a ∈ p.archives := by
    intro a ha
    rw [has, BuildPlan.referred] at ha
    obtain ⟨name, -, hname⟩ := List.mem_filterMap.1 ha
    exact (mem_archives_of_find? hname).1
  have houtputs : (as.map Target.outputPath).Nodup := by
    rw [has, BuildPlan.referred]
    exact nodup_outputs_filterMap (nodup_eraseDups _)
  refine ⟨hfound, hmem, houtputs, ?_, ?_⟩
  · -- nothing was there before, and there is nothing to be left out
    calc (x.link (.ofTargets p.archives)).prerequisites
        = addAllUnique x.prerequisites
            ((as.map ArchiveEntry.ofTarget).map ArchiveEntry.output) := by
          rw [Target.prerequisites_link, hfound]
      _ = (as.map Target.outputPath).eraseDups := by
          rw [hprerequisites, addAllUnique_nil, List.map_map]
          rfl
      _ = as.map Target.outputPath := eraseDups_of_nodup houtputs
  · calc (x.link (.ofTargets p.archives)).ldflags
        = addAllUnique (addAllUnique [] (t.ownFlags config.runtime x))
            ((as.map ArchiveEntry.ofTarget).flatMap ArchiveEntry.linkFlags) := by
          rw [Target.ldflags_link, hfound, hflags, addAllUnique_nil]
      _ = (t.ownFlags config.runtime x ++
            (as.map ArchiveEntry.ofTarget).flatMap ArchiveEntry.linkFlags).eraseDups := by
          rw [← addAllUnique_append, addAllUnique_nil]
      _ = _ := by
          rw [List.flatMap_map]
          rfl

/-- **Modules depend on exactly the archives that their sources refer to.** -/
theorem plan_dependencies (h : (t.plan project config).result = .ok p) {m : Target}
    (hm : m ∈ p.modules) :
    t.DependsOn config.runtime p m (p.referred (t.declaredBy m .reflibs)) := by
  obtain ⟨-, -, -, ms, hms, hmodules⟩ := Tree.plan_eq_ok_iff.1 h
  -- a module of the plan is one of the root, linked
  obtain ⟨x, hx, rfl⟩ := List.mem_map.1 (hmodules ▸ hm)
  obtain ⟨hascend, hasked, -⟩ := unlinked_of_targetsOf hms hx
  -- linking leaves the files alone, and so what they declare
  have hdeclared :
      t.declaredBy (x.link (.ofTargets p.archives)) .reflibs = t.declaredBy x .reflibs := by
    rw [Tree.declaredBy, Target.files_link, Tree.declaredBy]
  have hown :
      t.ownFlags config.runtime (x.link (.ofTargets p.archives)) = t.ownFlags config.runtime x := by
    rw [Tree.ownFlags, Target.files_link, Tree.ownFlags]
  rw [hdeclared]
  obtain ⟨as, has⟩ : ∃ as, as = p.referred (t.declaredBy x .reflibs) := ⟨_, rfl⟩
  rw [← has]
  obtain ⟨hfound, hmem, houtputs, hpre, hld⟩ := link_of_targetsOf h hms hx has
  have hldmem : ∀ a ∈ as, ∀ flag ∈ a.outputPath :: a.ldflags,
      flag ∈ (x.link (.ofTargets p.archives)).ldflags := by
    intro a ha flag hflag
    rw [hld, List.mem_eraseDups]
    exact List.mem_append_right _ (List.mem_flatMap.2 ⟨a, ha, hflag⟩)
  constructor
  case ascending => rwa [Target.files_link]
  case answered => rwa [Target.files_link]
  case prerequisites_eq => exact hpre
  case nodup_prerequisites => rwa [hpre]
  case rule =>
    intro path hpath
    rw [hpre] at hpath
    obtain ⟨a, ha, rfl⟩ := List.mem_map.1 hpath
    exact ⟨a, hmem a ha, filter_outputPath_eq h (List.mem_append_left _ (hmem a ha)),
      exists_linkRule_eq a, exists_lines_eq (hmem a ha) hm⟩
  case ldflags_eq => rwa [hown]
  case nodup_ldflags =>
    rw [hld]
    exact nodup_eraseDups _
  case ldflags_mem =>
    intro a ha
    exact ⟨hldmem a ha _ List.mem_cons_self,
      fun flag hflag => hldmem a ha flag (List.mem_cons_of_mem _ hflag)⟩
  case linker_iff =>
    rw [Target.linker_link, linker_iff_of_targetsOf hms hx, Target.HasExtended, Target.HasExtended,
      Target.files_link]
    refine or_congr Iff.rfl ?_
    -- an answer of the table is an archive that is referred to
    have hanswer : (∃ e ∈ x.reflibs.filterMap (ArchiveTable.ofTargets p.archives).get?,
          e.linker = .extended) ↔
        ∃ name ∈ x.reflibs, ∃ e, (ArchiveTable.ofTargets p.archives).get? name = some e ∧
          e.linker = .extended := by
      simp only [List.mem_filterMap]
      constructor
      · rintro ⟨e, ⟨name, hname, hget⟩, he⟩
        exact ⟨name, hname, e, hget, he⟩
      · rintro ⟨name, hname, e, hget, he⟩
        exact ⟨e, ⟨name, hname, hget⟩, he⟩
    rw [← hanswer, hfound]
    simp [ArchiveEntry.ofTarget]

/-- In the small project one module refers to the archive. -/
theorem smallProject_dependencies :
    (SmallProject.tree.plan (.ofString ".") .default).result = .ok SmallProject.plan ∧
      ∃ m ∈ SmallProject.plan.modules, m.prerequisites = ["$(LIBDIR)/z.a"] ∧
        SmallProject.plan.referred (SmallProject.tree.declaredBy m .reflibs) =
          SmallProject.plan.archives ∧
        SmallProject.tree.DependsOn "-lstdc++" SmallProject.plan m
          (SmallProject.plan.referred (SmallProject.tree.declaredBy m .reflibs)) :=
  ⟨SmallProject.plan_eq, _, List.mem_cons_self, rfl, by cbv,
    plan_dependencies SmallProject.plan_eq List.mem_cons_self⟩

end Plan

end NativeBuild
