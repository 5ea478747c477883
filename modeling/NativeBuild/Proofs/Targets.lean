import NativeBuild.Proofs.Planning

/-!
# What targets are made of

Three things make a target what it is: its kind, its name and its source files. They are settled
when a cluster is merged, and linking leaves them alone (`link_frame`).

The name of a target is a file's name, qualified by a directory, so names can be told apart by what
they are made of:

* `names_targets`: the names of an inventory's targets are names of its files, qualified by its
  directory;
* `nodup_names_of_targetsOf`: no two targets of a root have the same name;
* `nodup_names_of_plan`, `kind_of_mem_plan`: the same for each kind of targets of a plan.

Hence the table of archives, where a later archive would take the place of an earlier one of its
name, has one entry for each archive, and finds it (`ArchiveTable.entries_ofTargets`,
`ArchiveTable.get?_ofTargets_iff`).
-/

namespace NativeBuild

/-- The source files of a target, in order. -/
def Target.files (x : Target) : List SourceFile := x.sources.map TargetSource.file

namespace Target

/-! ### Merging -/

section Merging

variable (runtime : String) (x : Target) (ys : List Declared)

theorem addFiles_cons (y : Declared) :
    x.addFiles runtime (y :: ys) = (x.addFile y.1 y.2 runtime).addFiles runtime ys := rfl

@[simp] theorem kind_addFiles : (x.addFiles runtime ys).kind = x.kind := by
  induction ys generalizing x with
  | nil => rfl
  | cons y ys ih =>
    rw [addFiles_cons, ih]
    rfl

@[simp] theorem name_addFiles : (x.addFiles runtime ys).name = x.name := by
  induction ys generalizing x with
  | nil => rfl
  | cons y ys ih =>
    rw [addFiles_cons, ih]
    rfl

@[simp] theorem files_empty (kind : TargetKind) (name : String) :
  (empty kind name).files = [] := rfl

@[simp] theorem files_addFile (f : SourceFile) (ds : DirectiveSet) :
    (x.addFile f ds runtime).files = x.files ++ [f] := by
  simp [files, addFile]

/-- Sources join a target in order. -/
theorem files_addFiles : (x.addFiles runtime ys).files = x.files ++ ys.map Prod.fst := by
  induction ys generalizing x with
  | nil => simp [addFiles]
  | cons y ys ih =>
    rw [addFiles_cons, ih, files_addFile, List.map_cons, List.append_assoc, List.singleton_append]

/-- Each file comes in with its own flags. -/
theorem sources_addFiles :
    (x.addFiles runtime ys).sources = x.sources ++ ys.map fun y => ⟨y.1, .ofDirectives y.2⟩ := by
  induction ys generalizing x with
  | nil => simp [addFiles]
  | cons y ys ih =>
    rw [addFiles_cons, ih, List.map_cons]
    simp [addFile]

end Merging

/-! ### Linking -/

section Linking

variable (x : Target) (table : ArchiveTable)

/-- **Linking changes only what comes from archives.** -/
theorem link_frame : (x.link table).kind = x.kind ∧ (x.link table).name = x.name ∧
    (x.link table).sources = x.sources ∧ (x.link table).reflibs = x.reflibs := by
  -- the references are used up one by one while the target changes
  suffices h : ∀ (names : List String) (y : Target), (y.addArchives table names).kind = y.kind ∧
      (y.addArchives table names).name = y.name ∧ (y.addArchives table names).sources = y.sources ∧
      (y.addArchives table names).reflibs = y.reflibs from h x.reflibs x
  intro names
  induction names with
  | nil => exact fun y => ⟨rfl, rfl, rfl, rfl⟩
  | cons name rest ih =>
    intro y
    rw [addArchives]
    cases table.get? name with
    | none => exact ih y
    | some a => exact ih (y.addArchive a)

@[simp] theorem kind_link : (x.link table).kind = x.kind := (x.link_frame table).1

@[simp] theorem name_link : (x.link table).name = x.name := (x.link_frame table).2.1

@[simp] theorem reflibs_link : (x.link table).reflibs = x.reflibs := (x.link_frame table).2.2.2

@[simp] theorem files_link : (x.link table).files = x.files := by
  rw [files, (x.link_frame table).2.2.1, files]

end Linking

end Target

/-! ### Names -/

section Names

variable {inv : Inventory} {kind : TargetKind} {runtime : String}
  {directivesOf : SourceFile → Logged DirectiveSet}

theorem kind_of_mem_targets {x : Target} (hx : x ∈ inv.targets kind runtime directivesOf) :
    x.kind = kind := by
  obtain ⟨c, -, rfl⟩ := List.mem_map.1 hx
  rw [Group.ofCluster, Target.kind_addFiles]
  rfl

/-- **Targets are named after the leaders of their clusters.** -/
theorem names_targets (inv : Inventory) (kind : TargetKind) (runtime : String)
    (directivesOf : SourceFile → Logged DirectiveSet) :
    ∃ keys, List.Sublist keys inv.names ∧
      (inv.targets kind runtime directivesOf).map Target.name =
        keys.map (qualifiedName inv.dir) := by
  refine ⟨((clusters (declared directivesOf inv.files)).map Prod.fst).map (·.1.name), ?_, ?_⟩
  · -- each group has its name from the file that leads it
    have h := (leaders_sublist (declared directivesOf inv.files)).map (fun y => y.1.name)
    have hnames : (declared directivesOf inv.files).map (fun y => y.1.name) = inv.names := by
      rw [declared, List.map_map]
      rfl
    rwa [hnames] at h
  · -- to which the directory is added, whatever joins the group
    rw [Inventory.targets, List.map_map, List.map_map, List.map_map]
    refine List.map_congr_left fun c _ => ?_
    change (Group.ofCluster ⟨inv.dir, kind, runtime⟩ c).target.name =
      qualifiedName inv.dir c.1.1.name
    rw [Group.ofCluster, Target.name_addFiles]
    rfl

theorem exists_key_of_mem_names {name : String}
    (h : name ∈ (inv.targets kind runtime directivesOf).map Target.name) :
    ∃ key ∈ inv.names, name = qualifiedName inv.dir key := by
  obtain ⟨keys, hkeys, hnames⟩ := names_targets inv kind runtime directivesOf
  rw [hnames] at h
  obtain ⟨key, hkey, rfl⟩ := List.mem_map.1 h
  exact ⟨key, hkeys.subset hkey, rfl⟩

variable {t : Tree} {project : Path} {config : Config} {root : String} {ts : List Target}

/-- The names of what a scan lists have no slash in them. -/
theorem slash_notMem_of_mem_names {followLinks : Bool} {invs : List Inventory}
    (h : (t.scan project root followLinks).result = .ok invs) (hinv : inv ∈ invs) {key : String}
    (hkey : key ∈ inv.names) : '/' ∉ key.toList := by
  obtain ⟨f, hf, rfl⟩ := List.mem_map.1 hkey
  exact (lies_of_scan h hinv hf).slash_notMem_name

/-- **The targets of a root have different names**: two of one directory have different keys, and a
name tells in which directory it is. -/
theorem nodup_names_of_targetsOf (h : (t.targetsOf project config root kind).result = .ok ts) :
    (ts.map Target.name).Nodup := by
  obtain ⟨invs, hscan, -, rfl⟩ := Tree.targetsOf_eq_ok_iff.1 h
  rw [List.map_flatMap, List.nodup_flatMap]
  constructor
  · -- in one directory the keys are names of files, which differ and have no slash
    intro inv hinv
    obtain ⟨keys, hkeys, hnames⟩ := names_targets inv kind config.runtime t.directivesOf
    rw [hnames]
    refine (inv.nodup_names.sublist hkeys).map_on fun k hk k' hk' he => ?_
    have hslash := slash_notMem_of_mem_names hscan hinv (hkeys.subset hk)
    have hslash' := slash_notMem_of_mem_names hscan hinv (hkeys.subset hk')
    exact (qualifiedName_inj hslash hslash' he).2
  · -- in two directories the names differ in front of their last slash
    refine (ascending_of_scan hscan).imp_of_mem fun {inv inv'} hinv hinv' hlt => ?_
    intro name hmem hmem'
    obtain ⟨k, hk, rfl⟩ := exists_key_of_mem_names hmem
    obtain ⟨k', hk', he⟩ := exists_key_of_mem_names hmem'
    have hslash := slash_notMem_of_mem_names hscan hinv hk
    have hslash' := slash_notMem_of_mem_names hscan hinv' hk'
    exact String.ne_of_lt hlt (qualifiedName_inj hslash hslash' he).1

/-- The targets of a root are of one kind. -/
theorem kind_of_mem_targetsOf (h : (t.targetsOf project config root kind).result = .ok ts)
    {x : Target} (hx : x ∈ ts) : x.kind = kind := by
  obtain ⟨invs, -, -, rfl⟩ := Tree.targetsOf_eq_ok_iff.1 h
  obtain ⟨inv, -, hx⟩ := List.mem_flatMap.1 hx
  exact kind_of_mem_targets hx

variable {p : BuildPlan}

/-- The targets of one kind of a plan are those of a root, up to what linking does to modules. -/
theorem ofKind_of_plan (h : (t.plan project config).result = .ok p) (kind : TargetKind) :
    ∃ root ts, (t.targetsOf project config root kind).result = .ok ts ∧
      (p.ofKind kind).map (fun x => (x.kind, x.name)) = ts.map (fun x => (x.kind, x.name)) := by
  obtain ⟨-, -, harchives, ms, hms, hmodules⟩ := Tree.plan_eq_ok_iff.1 h
  cases kind with
  | archive => exact ⟨_, _, harchives, rfl⟩
  | module =>
    refine ⟨_, ms, hms, ?_⟩
    rw [BuildPlan.ofKind, hmodules, List.map_map]
    exact List.map_congr_left fun x _ => Prod.ext (x.kind_link _) (x.name_link _)

/-- **The targets of each kind of a plan have different names.** -/
theorem nodup_names_of_plan (h : (t.plan project config).result = .ok p) (kind : TargetKind) :
    ((p.ofKind kind).map Target.name).Nodup := by
  obtain ⟨root, ts, hts, he⟩ := ofKind_of_plan h kind
  have hnames := congrArg (List.map Prod.snd) he
  rw [List.map_map, List.map_map] at hnames
  exact hnames ▸ nodup_names_of_targetsOf hts

/-- And so are those of a plan. -/
theorem kind_of_mem_plan (h : (t.plan project config).result = .ok p) (kind : TargetKind)
    {x : Target} (hx : x ∈ p.ofKind kind) : x.kind = kind := by
  obtain ⟨root, ts, hts, he⟩ := ofKind_of_plan h kind
  have hmem : (x.kind, x.name) ∈ ts.map fun x => (x.kind, x.name) := he ▸ List.mem_map_of_mem hx
  obtain ⟨y, hy, hxy⟩ := List.mem_map.1 hmem
  exact (congrArg Prod.fst hxy).symm.trans (kind_of_mem_targetsOf hts hy)

end Names

/-! ### The table of archives -/

section Table

variable {ts : List Target} {name : String}

/-- Among things with different keys each is found by its key. -/
theorem find?_key_eq_some_iff {α : Type} {key : α → String} {l : List α} (hn : (l.map key).Nodup)
    {x : α} :
    l.find? (fun y => key y = name) = some x ↔ x ∈ l ∧ key x = name := by
  constructor
  · intro h
    exact ⟨List.mem_of_find?_eq_some h, by simpa using List.find?_some h⟩
  · rintro ⟨hx, rfl⟩
    cases hf : l.find? fun y => key y = key x with
    | none => exact absurd (List.find?_eq_none.1 hf x hx) (by simp)
    | some y =>
      have hy := List.mem_of_find?_eq_some hf
      have hyx : key y = key x := by simpa using List.find?_some hf
      rw [List.inj_on_of_nodup_map hn hy hx hyx]

namespace ArchiveTable

/-- A new name goes to the end of the table. -/
theorem enter_of_notMem {e : ArchiveEntry} {es : List (String × ArchiveEntry)}
    (h : name ∉ es.map Prod.fst) : enter name e es = es ++ [(name, e)] := by
  induction es with
  | nil => rfl
  | cons y es ih =>
    rw [List.map_cons, List.mem_cons, not_or] at h
    rw [enter, if_neg (Ne.symm h.1), ih h.2, List.cons_append]

/-- Entering archives of new and different names puts them behind what is there. -/
theorem foldl_enter {es : List (String × ArchiveEntry)}
    (hn : (es.map Prod.fst ++ ts.map Target.name).Nodup) :
    ts.foldl (fun es x => enter x.name (.ofTarget x) es) es =
      es ++ ts.map fun x => (x.name, ArchiveEntry.ofTarget x) := by
  induction ts generalizing es with
  | nil => simp
  | cons x ts ih =>
    -- the first archive goes to the end, where it stands in front of the rest
    have hnew : x.name ∉ es.map Prod.fst := by
      intro hmem
      exact (List.nodup_append.1 hn).2.2 _ hmem _ List.mem_cons_self rfl
    rw [List.foldl_cons, enter_of_notMem hnew, ih, List.append_assoc]
    · rfl
    · rwa [List.map_append, List.append_assoc]

/-- **The table has one entry for each archive**, in order. -/
theorem entries_ofTargets (hk : ∀ x ∈ ts, x.kind = .archive) (hn : (ts.map Target.name).Nodup) :
    (ofTargets ts).entries = ts.map fun x => (x.name, ArchiveEntry.ofTarget x) := by
  have hall : ts.filter (fun x => x.kind = .archive) = ts :=
    List.filter_eq_self.2 fun x hx => by simpa using hk x hx
  rw [ofTargets, hall, foldl_enter (by simpa using hn), List.nil_append]

/-- **The table finds each archive by its name.** -/
theorem get?_ofTargets_iff (hk : ∀ x ∈ ts, x.kind = .archive) (hn : (ts.map Target.name).Nodup)
    (name : String) (e : ArchiveEntry) :
    (ofTargets ts).get? name = some e ↔ ∃ x ∈ ts, x.name = name ∧ e = .ofTarget x := by
  -- what the table finds is found among the targets, by name
  have hget : (ofTargets ts).get? name =
      (ts.find? fun y => y.name = name).map ArchiveEntry.ofTarget := by
    rw [get?, entries_ofTargets hk hn, List.find?_map, Option.map_map]
    rfl
  rw [hget, Option.map_eq_some_iff]
  -- no name is there twice, so finding one and having one are the same
  constructor
  · rintro ⟨x, hx, rfl⟩
    obtain ⟨hx, hname⟩ := (find?_key_eq_some_iff hn).1 hx
    exact ⟨x, hx, hname, rfl⟩
  · rintro ⟨x, hx, hname, rfl⟩
    exact ⟨x, (find?_key_eq_some_iff hn).2 ⟨hx, hname⟩, rfl⟩

end ArchiveTable

end Table

end NativeBuild
