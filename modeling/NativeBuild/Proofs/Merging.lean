import NativeBuild.Proofs.Escalation

/-!
# What merging and linking put together

The link flags, the references and the prerequisites of a target grow at their ends, a value at a
time and each value once. What has come together in the end does not depend on how it was cut into
pieces on the way: adding values one after the other is the same as putting them all behind what is
there and keeping the first of equal ones (`addAllUnique_eq`, and `addAllUnique_nil` from the empty
list).

Hence closed forms for the two loops that fill these lists. Merging files into a target appends what
each of them declares, in order, the runtime right behind the flags of a file that needs it
(`ldflags_addFiles`, `reflibs_addFiles`). Linking appends for each reference that an archive answers
what the archive brings (`ldflags_link`, `prerequisites_link`); a name without an archive is passed
by. The driver that comes of it is the greatest of those that come together, `Linker.IsMaxOf`.
-/

namespace NativeBuild

/-! ### Adding values one after the other -/

section Unique

variable {l vs ws : List String}

/-- **Adding values in turn** is appending the new ones, the first of equal ones each. -/
theorem addAllUnique_eq (l vs : List String) :
    addAllUnique l vs = l ++ (vs.removeAll l).eraseDups := by
  induction vs generalizing l with
  | nil => simp [addAllUnique, List.removeAll]
  | cons v vs ih =>
    change addAllUnique (addUnique l v) vs = _
    rw [ih]
    by_cases hv : v ∈ l
    · -- a value that is there is passed by on either side
      have hremove : (v :: vs).removeAll l = vs.removeAll l := by
        simp [List.removeAll, hv]
      rw [addUnique, if_pos hv, hremove]
    · -- a new one is the first of its kind, and hides those that come later
      have hremove : (v :: vs).removeAll l = v :: vs.removeAll l := by
        simp [List.removeAll, hv]
      have hlater : vs.removeAll (l ++ [v]) = (vs.removeAll l).filter fun w => !w == v := by
        rw [List.removeAll, List.removeAll, List.filter_filter]
        refine List.filter_congr fun w _ => ?_
        by_cases hw : w = v <;> simp [hw]
      rw [addUnique, if_neg hv, hremove, hlater, List.eraseDups_cons, List.append_assoc]
      rfl

/-- From nothing, values are added as often as they differ. -/
theorem addAllUnique_nil (vs : List String) : addAllUnique [] vs = vs.eraseDups := by
  have hremove : vs.removeAll [] = vs := by simp [List.removeAll]
  rw [addAllUnique_eq, hremove, List.nil_append]

/-- Values that are there are not added. -/
theorem addAllUnique_of_forall_mem (h : ∀ v ∈ vs, v ∈ l) : addAllUnique l vs = l := by
  have hnone : vs.removeAll l = [] := by
    rw [List.removeAll, List.filter_eq_nil_iff]
    intro v hv
    simp [h v hv]
  rw [addAllUnique_eq, hnone, List.eraseDups_nil, List.append_nil]

/-- Values can be added in two portions. -/
theorem addAllUnique_append (l vs ws : List String) :
    addAllUnique l (vs ++ ws) = addAllUnique (addAllUnique l vs) ws :=
  List.foldl_append

/-- Without repetition every value is the first of its kind. -/
theorem eraseDups_of_nodup (h : vs.Nodup) : vs.eraseDups = vs := by
  induction vs with
  | nil => rfl
  | cons v vs ih =>
    obtain ⟨hv, hvs⟩ := List.nodup_cons.1 h
    have hfilter : vs.filter (fun w => !w == v) = vs := by
      refine List.filter_eq_self.2 fun w hw => ?_
      have hne : w ≠ v := fun he => hv (he ▸ hw)
      simp [hne]
    rw [List.eraseDups_cons, hfilter, ih hvs]

theorem nodup_eraseDups (vs : List String) : vs.eraseDups.Nodup := by
  rw [← addAllUnique_nil]
  exact nodup_addAllUnique List.nodup_nil

end Unique

/-- What a target takes over from an archive as flags: the archive itself, and what it is linked
with. -/
def ArchiveEntry.linkFlags (a : ArchiveEntry) : List String := a.output :: a.ldflags

/-! ### The greatest driver -/

namespace Linker

/-- Drivers in ascending order. -/
def rank : Linker → Nat
  | plain => 0
  | extended => 1

/-- The driver is the **greatest** of some: one of them, and no less than any. -/
def IsMaxOf (l : Linker) (ls : List Linker) : Prop := l ∈ ls ∧ ∀ l' ∈ ls, l'.rank ≤ l.rank

/-- With two drivers the extended one decides. -/
theorem isMaxOf_of_iff {l : Linker} {ls : List Linker} (hne : ls ≠ [])
    (h : l = extended ↔ extended ∈ ls) :
    l.IsMaxOf ls := by
  cases l with
  | extended =>
    refine ⟨h.1 rfl, fun l' _ => ?_⟩
    cases l' <;> decide
  | plain =>
    -- without an extended one all of them are plain
    have hplain : ∀ l' ∈ ls, l' = plain := by
      intro l' hl'
      cases l' with
      | plain => rfl
      | extended => exact absurd (h.2 hl') Linker.noConfusion
    obtain ⟨l', hl'⟩ := List.exists_mem_of_ne_nil ls hne
    exact ⟨hplain l' hl' ▸ hl', fun m hm => Nat.le_of_eq (congrArg rank (hplain m hm))⟩

end Linker

namespace Target

variable {x : Target} {runtime : String}

/-! ### Merging files -/

/-- The flags that a file brings when it is merged: what it declares, and the runtime if it needs
it. -/
def broughtFlags (runtime : String) (y : Declared) : List String :=
  y.2.values .ldflags ++ if y.1.linker = .extended ∧ runtime ≠ "" then [runtime] else []

/-- A source adds the flags that it brings. -/
theorem ldflags_addFile (x : Target) (runtime : String) (y : Declared) :
    (x.addFile y.1 y.2 runtime).ldflags = addAllUnique x.ldflags (broughtFlags runtime y) := by
  change withRuntime y.1.linker runtime (addAllUnique x.ldflags (y.2.values .ldflags)) = _
  rw [withRuntime, broughtFlags, addAllUnique_append]
  split
  · rfl
  · rfl

/-- **The flags of merged files**, in order. -/
theorem ldflags_addFiles (x : Target) (runtime : String) (ys : List Declared) :
    (x.addFiles runtime ys).ldflags =
      addAllUnique x.ldflags (ys.flatMap (broughtFlags runtime)) := by
  induction ys generalizing x with
  | nil => rfl
  | cons y ys ih =>
    calc ((x.addFile y.1 y.2 runtime).addFiles runtime ys).ldflags
        = addAllUnique (x.addFile y.1 y.2 runtime).ldflags (ys.flatMap (broughtFlags runtime)) :=
        ih _
      _ = addAllUnique (addAllUnique x.ldflags (broughtFlags runtime y))
            (ys.flatMap (broughtFlags runtime)) := by rw [ldflags_addFile]
      _ = addAllUnique x.ldflags ((y :: ys).flatMap (broughtFlags runtime)) := by
          rw [List.flatMap_cons, addAllUnique_append]

/-- **The references of merged files**, in order. -/
theorem reflibs_addFiles (x : Target) (runtime : String) (ys : List Declared) :
    (x.addFiles runtime ys).reflibs =
      addAllUnique x.reflibs (ys.flatMap fun y => y.2.values .reflibs) := by
  induction ys generalizing x with
  | nil => rfl
  | cons y ys ih =>
    rw [addFiles_cons, ih, List.flatMap_cons, addAllUnique_append]
    rfl

/-- Sources add no prerequisites. -/
theorem prerequisites_addFiles (x : Target) (runtime : String) (ys : List Declared) :
    (x.addFiles runtime ys).prerequisites = x.prerequisites := by
  induction ys generalizing x with
  | nil => rfl
  | cons y ys ih =>
    rw [addFiles_cons, ih]
    rfl

/-! ### Linking -/

/-- **What linking appends**: for every name in turn, what the archive of that name brings, if there
is one. -/
theorem addArchives_eq (table : ArchiveTable) (x : Target) (names : List String) :
    (x.addArchives table names).ldflags =
        addAllUnique x.ldflags ((names.filterMap table.get?).flatMap ArchiveEntry.linkFlags) ∧
      (x.addArchives table names).prerequisites =
        addAllUnique x.prerequisites ((names.filterMap table.get?).map ArchiveEntry.output) := by
  -- on the names, with what the ones before have added
  induction names generalizing x with
  | nil => exact ⟨rfl, rfl⟩
  | cons name rest ih =>
    rw [addArchives]
    cases hget : table.get? name with
    | none =>
      -- no archive, nothing on either side
      rw [List.filterMap_cons_none hget]
      exact ih x
    | some a =>
      obtain ⟨hflags, hpre⟩ := ih (x.addArchive a)
      rw [List.filterMap_cons_some hget, List.flatMap_cons, List.map_cons, addAllUnique_append]
      exact ⟨hflags, hpre⟩

/-- Linking adds the flags of the archives that the table has. -/
theorem ldflags_link (x : Target) (table : ArchiveTable) : (x.link table).ldflags =
    addAllUnique x.ldflags ((x.reflibs.filterMap table.get?).flatMap ArchiveEntry.linkFlags) :=
  (addArchives_eq table x x.reflibs).1

/-- And it adds their outputs. -/
theorem prerequisites_link (x : Target) (table : ArchiveTable) : (x.link table).prerequisites =
    addAllUnique x.prerequisites ((x.reflibs.filterMap table.get?).map ArchiveEntry.output) :=
  (addArchives_eq table x x.reflibs).2

end Target

/-! ### The targets of a root -/

/-- **A target of a root is merged from its own files**, each with the directives that were read
from it. -/
theorem eq_addFiles_of_targetsOf {t : Tree} {project : Path} {config : Config} {root : String}
    {kind : TargetKind} {ts : List Target}
    (h : (t.targetsOf project config root kind).result = .ok ts) {x : Target} (hx : x ∈ ts) :
    Ascending SourceFile.name x.files ∧ Answered t.directivesOf x.files ∧
      x = (Target.empty kind x.name).addFiles config.runtime (declared t.directivesOf x.files) := by
  obtain ⟨invs, -, hasked, rfl⟩ := Tree.targetsOf_eq_ok_iff.1 h
  obtain ⟨inv, hinv, hx⟩ := List.mem_flatMap.1 hx
  obtain ⟨c, hc, rfl⟩ := List.mem_map.1 hx
  -- a cluster is a part of the files of the inventory with their directives
  have hpart : List.Sublist (c.1 :: c.2) (declared t.directivesOf inv.files) := by
    have hsub : List.Sublist (c.1 :: c.2)
        ((clusters (declared t.directivesOf inv.files)).map fun c => c.1 :: c.2).flatten :=
      List.sublist_flatten_of_mem (List.mem_map_of_mem hc)
    rwa [← List.flatMap_def, flatMap_clusters] at hsub
  have hfiles : (Group.ofCluster ⟨inv.dir, kind, config.runtime⟩ c).target.files =
      (c.1 :: c.2).map Prod.fst := by
    rw [Group.ofCluster, Target.files_addFiles, Target.files_empty, List.nil_append]
  have hname : (Group.ofCluster ⟨inv.dir, kind, config.runtime⟩ c).target.name =
      qualifiedName inv.dir c.1.1.name := by
    rw [Group.ofCluster, Target.name_addFiles]
    rfl
  -- c.2).map Prod.fst) = c.1
  have hdeclared : declared t.directivesOf ((c.1 :: c.2).map Prod.fst) = c.1 :: c.2 := by
    rw [declared, List.map_map]
    refine (List.map_congr_left fun y hy => ?_).trans (List.map_id _)
    obtain ⟨f, -, rfl⟩ := List.mem_map.1 (hpart.subset hy)
    rfl
  have hsub : List.Sublist ((c.1 :: c.2).map Prod.fst) inv.files := by
    have := hpart.map Prod.fst
    rwa [map_fst_declared] at this
  rw [hfiles, hname, hdeclared]
  exact ⟨inv.ascending.sublist hsub, fun f hf => hasked inv hinv f (hsub.subset hf), rfl⟩

end NativeBuild
