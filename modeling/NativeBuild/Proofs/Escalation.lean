import NativeBuild.Proofs.Targets

/-!
# Drivers escalate exactly

Which driver a target is linked with is settled in three places: by each file that is merged into
it, by the table of archives, which remembers the driver of each, and by each reference that the
table answers. Drivers are only ever combined by `Linker.escalate`, so in the end the extended
driver is there if and only if one of them asked for it (`linker_addFiles`, `linker_link`).

The runtime of the extended language is a link flag that has to come along with the driver.
`Equipped` is the invariant: the flags do not repeat, and the runtime is among them as soon as the
driver is the extended one. Merging a file keeps it (`Equipped.addFile`), and so does taking over an
archive that has it (`Equipped.addArchive`); thus archives come first, and modules follow.
-/

namespace NativeBuild

/-! ### Lists without repetition -/

section Unique

variable {l vs : List String} {v w : String}

/-- Adding a value once adds it. -/
theorem mem_addUnique : w ∈ addUnique l v ↔ w ∈ l ∨ w = v := by
  unfold addUnique
  split
  · exact ⟨Or.inl, fun h => h.elim id fun he => he ▸ ‹v ∈ l›⟩
  · rw [List.mem_append, List.mem_singleton]

/-- And it never adds it twice. -/
theorem nodup_addUnique (h : l.Nodup) : (addUnique l v).Nodup := by
  unfold addUnique
  split
  · exact h
  · exact List.nodup_append.2 ⟨h, List.nodup_singleton v, fun a ha b hb he =>
      ‹v ∉ l› (List.mem_singleton.1 hb ▸ he ▸ ha)⟩

theorem mem_addAllUnique : w ∈ addAllUnique l vs ↔ w ∈ l ∨ w ∈ vs := by
  unfold addAllUnique
  induction vs generalizing l with
  | nil => simp
  | cons v vs ih => rw [List.foldl_cons, ih, mem_addUnique, List.mem_cons, or_assoc]

theorem nodup_addAllUnique (h : l.Nodup) : (addAllUnique l vs).Nodup := by
  unfold addAllUnique
  induction vs generalizing l with
  | nil => exact h
  | cons v vs ih => exact ih (nodup_addUnique h)

end Unique

/-! ### Drivers -/

/-- One of two drivers is the extended one exactly if the greater is. -/
theorem Linker.escalate_eq_extended_iff {a b : Linker} :
    a.escalate b = .extended ↔ a = .extended ∨ b = .extended := by
  cases a <;> simp [Linker.escalate]

/-- A source file of the extended language. -/
def SourceFile.IsExtended (f : SourceFile) : Prop := f.ext = "cc" ∨ f.ext = "cpp" ∨ f.ext = "cxx"

/-- A source asks for the extended linker by its extension alone. -/
theorem SourceFile.linker_eq_extended_iff {f : SourceFile} : f.linker = .extended ↔
    f.IsExtended := by
  unfold SourceFile.linker Linker.ofExtension? SourceFile.IsExtended
  split
  · rename_i hc
    simp [hc]
  · split <;> simp_all

namespace Target

/-- Has the target a source of its own in the extended language? -/
def HasExtended (x : Target) : Prop := ∃ f ∈ x.files, f.IsExtended

variable {x : Target} {runtime : String}

/-- The sources of a target escalate it together. -/
theorem linker_addFiles {ys : List Declared} : (x.addFiles runtime ys).linker = .extended ↔
    x.linker = .extended ∨ ∃ y ∈ ys, y.1.IsExtended := by
  induction ys generalizing x with
  | nil => simp [addFiles]
  | cons y ys ih =>
    -- one file at a time, each escalating what the files before it left
    have hstep : (x.addFile y.1 y.2 runtime).linker = .extended ↔
        x.linker = .extended ∨ y.1.IsExtended := by
      rw [← SourceFile.linker_eq_extended_iff]
      exact Linker.escalate_eq_extended_iff
    rw [addFiles_cons, ih, hstep, or_assoc, List.exists_mem_cons_iff]

variable {table : ArchiveTable}

/-- So do the archives that it links, as far as the table has them. -/
theorem linker_addArchives {names : List String} : (x.addArchives table names).linker = .extended ↔
    x.linker = .extended ∨ ∃ name ∈ names, ∃ e, table.get? name = some e ∧
      e.linker = .extended := by
  -- on the names, for whatever the target has become by then
  induction names generalizing x with
  | nil => simp [addArchives]
  | cons name rest ih =>
    rw [addArchives, List.exists_mem_cons_iff]
    cases hget : table.get? name with
    | none =>
      -- a name that no archive has adds nothing on either side
      simpa using ih
    | some e =>
      have hstep : (x.addArchive e).linker = .extended ↔
          x.linker = .extended ∨ e.linker = .extended :=
        Linker.escalate_eq_extended_iff
      rw [ih, hstep, or_assoc]
      simp

/-- **What linking does to the driver**: it is the extended one if it was before or one of the
archives needs it. -/
theorem linker_link : (x.link table).linker = .extended ↔
    x.linker = .extended ∨ ∃ name ∈ x.reflibs, ∃ e, table.get? name = some e ∧
      e.linker = .extended :=
  linker_addArchives

end Target

/-! ### The runtime comes along -/

/-- Link flags are **equipped** for a driver: they do not repeat, and the extended driver finds its
runtime among them. -/
structure Equipped (runtime : String) (linker : Linker) (ldflags : List String) : Prop where
  nodup : ldflags.Nodup
  runtime_mem : runtime ≠ "" → linker = .extended → runtime ∈ ldflags

namespace Equipped

variable {runtime : String} {x : Target}

theorem empty (kind : TargetKind) (name : String) :
    Equipped runtime (Target.empty kind name).linker (Target.empty kind name).ldflags where
  nodup := List.nodup_nil
  runtime_mem _ h := absurd h (by simp [Target.empty])

theorem addFile (h : Equipped runtime x.linker x.ldflags) (f : SourceFile) (ds : DirectiveSet) :
    Equipped runtime (x.addFile f ds runtime).linker (x.addFile f ds runtime).ldflags := by
  have hnodup : (addAllUnique x.ldflags (ds.values .ldflags)).Nodup := nodup_addAllUnique h.nodup
  -- flags are kept once, and the runtime is put in by the source that escalates
  constructor
  · change (Target.withRuntime f.linker runtime _).Nodup
    unfold Target.withRuntime
    split
    · exact nodup_addUnique hnodup
    · exact hnodup
  · intro hr hl
    change runtime ∈ Target.withRuntime f.linker runtime _
    unfold Target.withRuntime
    rcases Linker.escalate_eq_extended_iff.1 hl with hx | hf
    · -- the runtime is there already, and more flags do not take it away
      have hmem : runtime ∈ addAllUnique x.ldflags (ds.values .ldflags) :=
        mem_addAllUnique.2 (Or.inl (h.runtime_mem hr hx))
      split
      · exact mem_addUnique.2 (Or.inl hmem)
      · exact hmem
    · rw [if_pos ⟨hf, hr⟩]
      exact mem_addUnique.2 (Or.inr rfl)

theorem addFiles (h : Equipped runtime x.linker x.ldflags) (ys : List Declared) :
    Equipped runtime (x.addFiles runtime ys).linker (x.addFiles runtime ys).ldflags := by
  induction ys generalizing x with
  | nil => exact h
  | cons y ys ih => exact ih (h.addFile y.1 y.2)

/-- An archive brings its runtime along. -/
theorem addArchive (h : Equipped runtime x.linker x.ldflags) {e : ArchiveEntry}
    (he : Equipped runtime e.linker e.ldflags) :
    Equipped runtime (x.addArchive e).linker (x.addArchive e).ldflags := by
  constructor
  · exact nodup_addAllUnique (nodup_addUnique h.nodup)
  · intro hr hl
    -- the runtime was there, or it comes with the archive's own flags
    refine mem_addAllUnique.2 ?_
    rcases Linker.escalate_eq_extended_iff.1 hl with hx | ha
    · exact Or.inl (mem_addUnique.2 (Or.inl (h.runtime_mem hr hx)))
    · exact Or.inr (he.runtime_mem hr ha)

/-- Linking keeps a target equipped, if every archive is. -/
theorem link {table : ArchiveTable}
    (htable : ∀ name e, table.get? name = some e → Equipped runtime e.linker e.ldflags)
    (h : Equipped runtime x.linker x.ldflags) :
    Equipped runtime (x.link table).linker (x.link table).ldflags := by
  unfold Target.link
  generalize x.reflibs = names
  induction names generalizing x with
  | nil => exact h
  | cons name rest ih =>
    rw [Target.addArchives]
    cases hget : table.get? name with
    | none => exact ih h
    | some e => exact ih (h.addArchive (htable name e hget))

end Equipped

/-! ### The targets of a plan -/

section Plan

variable {t : Tree} {project : Path} {config : Config} {root : String} {kind : TargetKind}
  {ts : List Target} {x : Target}

/-- A target of a root is merged from the files of a cluster. -/
theorem exists_cluster_of_targetsOf (h : (t.targetsOf project config root kind).result = .ok ts)
    (hx : x ∈ ts) : ∃ name ys, x = (Target.empty kind name).addFiles config.runtime ys := by
  obtain ⟨invs, -, -, rfl⟩ := Tree.targetsOf_eq_ok_iff.1 h
  obtain ⟨inv, -, hx⟩ := List.mem_flatMap.1 hx
  obtain ⟨c, -, rfl⟩ := List.mem_map.1 hx
  exact ⟨_, _, rfl⟩

/-- The targets of a root are escalated by their own sources only. -/
theorem linker_iff_of_targetsOf (h : (t.targetsOf project config root kind).result = .ok ts)
    (hx : x ∈ ts) : x.linker = .extended ↔ x.HasExtended := by
  obtain ⟨name, ys, rfl⟩ := exists_cluster_of_targetsOf h hx
  rw [Target.linker_addFiles, Target.HasExtended, Target.files_addFiles, Target.files_empty,
    List.nil_append]
  simp [Target.empty]

/-- And they have their runtime. -/
theorem equipped_of_targetsOf (h : (t.targetsOf project config root kind).result = .ok ts)
    (hx : x ∈ ts) : Equipped config.runtime x.linker x.ldflags := by
  obtain ⟨name, ys, rfl⟩ := exists_cluster_of_targetsOf h hx
  exact (Equipped.empty kind name).addFiles ys

/-- **Drivers escalate exactly.** An archive is linked with the extended driver if and only if it
has a source in the extended language, and a module if and only if it has one or refers to an
archive that has. The runtime, if there is one, is once among the flags of each target that is
linked with that driver. -/
theorem plan_escalates_exactly {p : BuildPlan} (h : (t.plan project config).result = .ok p) :
    (∀ a ∈ p.archives, a.linker = .extended ↔ a.HasExtended) ∧
      (∀ m ∈ p.modules, m.linker = .extended ↔
        m.HasExtended ∨ ∃ a ∈ p.archives, a.name ∈ m.reflibs ∧ a.HasExtended) ∧
      (config.runtime ≠ "" → ∀ x ∈ p.targets, x.linker = .extended →
        x.ldflags.count config.runtime = 1) := by
  obtain ⟨-, -, harchives, ms, hms, hmodules⟩ := Tree.plan_eq_ok_iff.1 h
  have hget := ArchiveTable.get?_ofTargets_iff (fun _ => kind_of_mem_plan h .archive)
    (nodup_names_of_plan h .archive)
  have hown : ∀ a ∈ p.archives, a.linker = .extended ↔ a.HasExtended :=
    fun a ha => linker_iff_of_targetsOf harchives ha
  refine ⟨hown, ?_, ?_⟩
  · intro m hm
    rw [hmodules] at hm
    obtain ⟨m', hm', rfl⟩ := List.mem_map.1 hm
    rw [Target.linker_link, linker_iff_of_targetsOf hms hm', Target.HasExtended, Target.HasExtended,
      Target.files_link, Target.reflibs_link]
    -- the table's answers are the archives of the plan, for which it is settled already
    refine or_congr Iff.rfl ?_
    constructor
    · rintro ⟨name, hname, e, he, hlinker⟩
      obtain ⟨a, ha, rfl, rfl⟩ := (hget name e).1 he
      exact ⟨a, ha, hname, (hown a ha).1 hlinker⟩
    · rintro ⟨a, ha, hname, hext⟩
      exact ⟨a.name, hname, _, (hget a.name _).2 ⟨a, ha, rfl, rfl⟩, (hown a ha).2 hext⟩
  · intro hr x hx hlinker
    have hequipped : Equipped config.runtime x.linker x.ldflags := by
      -- archives first, since modules take over what archives carry
      rcases List.mem_append.1 hx with hx | hx
      · exact equipped_of_targetsOf harchives hx
      · rw [hmodules] at hx
        obtain ⟨m, hm, rfl⟩ := List.mem_map.1 hx
        refine (equipped_of_targetsOf hms hm).link fun name e he => ?_
        obtain ⟨a, ha, -, rfl⟩ := (hget name e).1 he
        exact equipped_of_targetsOf harchives ha
    exact List.count_eq_one_of_mem hequipped.nodup (hequipped.runtime_mem hr hlinker)

/-- The small project, which has a module that an archive escalates. -/
theorem smallProject_escalates_exactly :
    (SmallProject.tree.plan (.ofString ".") .default).result = .ok SmallProject.plan ∧
      (∀ a ∈ SmallProject.plan.archives, a.linker = .extended ↔ a.HasExtended) ∧
      (∀ m ∈ SmallProject.plan.modules, m.linker = .extended ↔
        m.HasExtended ∨ ∃ a ∈ SmallProject.plan.archives, a.name ∈ m.reflibs ∧ a.HasExtended) ∧
      ∀ x ∈ SmallProject.plan.targets, x.linker = .extended → x.ldflags.count "-lstdc++" = 1 := by
  obtain ⟨harchives, hmodules, hruntime⟩ := plan_escalates_exactly SmallProject.plan_eq
  exact ⟨SmallProject.plan_eq, harchives, hmodules, hruntime (by decide)⟩

end Plan

end NativeBuild
