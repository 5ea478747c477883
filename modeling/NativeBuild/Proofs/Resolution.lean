import NativeBuild.Proofs.Merging

/-!
# How references are resolved

Linking goes through the references of a target and looks each of them up in a table that was filled
archive by archive. What comes of it can be said by the targets that the table was made from,
whatever they are: archives of one name, or modules among them.

* A reference is answered by the **last** archive of its name, `lastArchive?`; the table says the
  same (`ArchiveTable.get?_ofTargets_eq`), since an archive takes the place of an earlier one of its
  name.
* `Target.LinkedTo` is the result in closed form. The flags that were there stay in front; behind
  them stands what the answered references bring, in order, as far as it is new.
* Linking once more changes nothing (`Target.link_link`): the target holds by then all that an
  archive brings (`Target.Holds`), and an archive that is held adds nothing.
-/

namespace NativeBuild

/-! ### The last archive of a name -/

/-- The **last archive** of a name among some targets. -/
def lastArchive? (ts : List Target) (name : String) : Option Target :=
  (ts.filter fun a => a.kind = .archive ∧ a.name = name).getLast?

namespace ArchiveTable

variable {name : String} {es : List (String × ArchiveEntry)}

/-- What is entered is found under its name, and everything else as before. -/
theorem find?_enter (name other : String) (e : ArchiveEntry) (es : List (String × ArchiveEntry)) :
    ((enter other e es).find? fun y => y.1 = name).map Prod.snd =
      if other = name then some e else (es.find? fun y => y.1 = name).map Prod.snd := by
  induction es with
  | nil =>
    rw [enter, List.find?_singleton]
    by_cases hname : other = name <;> simp [hname]
  | cons y es ih =>
    rw [enter]
    by_cases hy : y.1 = other
    · -- the entry is replaced
      rw [if_pos hy]
      by_cases hname : other = name <;> simp [hy, hname]
    · -- the entry is passed by, and may itself be the one that is looked for
      rw [if_neg hy, List.find?_cons, List.find?_cons]
      by_cases hname : y.1 = name
      · have hother : other ≠ name := fun he => hy (hname.trans he.symm)
        simp [hname, hother]
      · simpa [hname] using ih

/-- **Of archives that are entered in turn the last one counts**, and before them what is there
already. -/
theorem find?_foldl_enter (as : List Target) (es : List (String × ArchiveEntry)) (name : String) :
    ((as.foldl (fun es a => enter a.name (.ofTarget a) es) es).find? fun y => y.1 = name).map
      Prod.snd =
      ((as.filter fun a => a.name = name).getLast?.map ArchiveEntry.ofTarget).or
        ((es.find? fun y => y.1 = name).map Prod.snd) := by
  induction as generalizing es with
  | nil => simp
  | cons a as ih =>
    rw [List.foldl_cons, ih, find?_enter]
    by_cases hname : a.name = name
    · rw [if_pos hname, List.filter_cons_of_pos (by simpa using hname), List.getLast?_cons]
      -- `a` counts if no later archive has the name
      cases (as.filter fun a => a.name = name).getLast? <;> rfl
    · rw [if_neg hname, List.filter_cons_of_neg (by simpa using hname)]

/-- **The table finds the last archive of a name.** -/
theorem get?_ofTargets_eq (ts : List Target) (name : String) :
    (ofTargets ts).get? name = (lastArchive? ts name).map ArchiveEntry.ofTarget := by
  have hboth : (ts.filter fun a => a.kind = .archive).filter (fun a => a.name = name) =
      ts.filter fun a => a.kind = .archive ∧ a.name = name := by
    rw [List.filter_filter]
    refine List.filter_congr fun a _ => ?_
    rw [Bool.decide_and, Bool.and_comm]
  rw [get?, ofTargets, find?_foldl_enter, hboth, List.find?_nil, Option.map_none, Option.or_none]
  rfl

end ArchiveTable

namespace Target

variable {x y : Target} {a : ArchiveEntry} {table : ArchiveTable}

/-! ### Linking in closed form -/

/-- The archives that **answer** the references of a target, one for each reference that there is
one for. -/
def answers (ts : List Target) (x : Target) : List Target := x.reflibs.filterMap (lastArchive? ts)

/-- The target `y` is `x` **linked** to the archives among some targets. -/
structure LinkedTo (ts : List Target) (x y : Target) : Prop where
  kind : y.kind = x.kind
  name : y.name = x.name
  sources : y.sources = x.sources
  reflibs : y.reflibs = x.reflibs
  /-- What an archive brings is its output path and then its flags; of that all that is new is
  appended, once. -/
  ldflags : y.ldflags = x.ldflags ++
    (((x.answers ts).flatMap fun a => a.outputPath :: a.ldflags).removeAll x.ldflags).eraseDups
  prerequisites : y.prerequisites = x.prerequisites ++
    (((x.answers ts).map outputPath).removeAll x.prerequisites).eraseDups
  linker : y.linker.IsMaxOf (x.linker :: (x.answers ts).map Target.linker)

/-- The entries that the table has for the references are those of the archives that answer. -/
theorem filterMap_get?_ofTargets (ts : List Target) (x : Target) :
    x.reflibs.filterMap (ArchiveTable.ofTargets ts).get? =
      (x.answers ts).map ArchiveEntry.ofTarget := by
  rw [answers, List.map_filterMap]
  exact List.filterMap_congr fun name _ => ArchiveTable.get?_ofTargets_eq ts name

/-- **Linking does what it should**: the archives that are referred to give a target their flags,
their outputs and their driver. -/
theorem linkedTo_link (ts : List Target) (x : Target) :
    x.LinkedTo ts (x.link (ArchiveTable.ofTargets ts)) where
  kind := kind_link x _
  name := name_link x _
  sources := (link_frame x _).2.2.1
  reflibs := reflibs_link x _
  ldflags := by
    rw [ldflags_link, addAllUnique_eq, filterMap_get?_ofTargets, List.flatMap_map]
    rfl
  prerequisites := by
    rw [prerequisites_link, addAllUnique_eq, filterMap_get?_ofTargets, List.map_map]
    rfl
  linker := by
    refine Linker.isMaxOf_of_iff (List.cons_ne_nil _ _) ?_
    rw [linker_link, List.mem_cons]
    refine or_congr eq_comm ?_
    -- the extended driver is asked for by an entry of the table, which is that of an archive
    have hentries : (∃ name ∈ x.reflibs, ∃ e, (ArchiveTable.ofTargets ts).get? name = some e ∧
        e.linker = .extended) ↔
        .extended ∈ (x.reflibs.filterMap (ArchiveTable.ofTargets ts).get?).map
          ArchiveEntry.linker := by
      simp only [List.mem_map, List.mem_filterMap]
      constructor
      · rintro ⟨name, hname, e, he, hlinker⟩
        exact ⟨e, ⟨name, hname, he⟩, hlinker⟩
      · rintro ⟨e, ⟨name, hname, he⟩, hlinker⟩
        exact ⟨name, hname, e, he, hlinker⟩
    rw [hentries, filterMap_get?_ofTargets, List.map_map]
    rfl

/-- **References without an archive** are those that are the name of none. -/
theorem unresolved_eq_filter (ts : List Target) (x : Target) :
    x.unresolved (ArchiveTable.ofTargets ts) =
      x.reflibs.filter fun name => ts.all fun a => !(a.kind = .archive ∧ a.name = name) := by
  refine List.filter_congr fun name _ => ?_
  rw [ArchiveTable.get?_ofTargets_eq, Option.isNone_map, Bool.eq_iff_iff, Option.isNone_iff_eq_none,
    lastArchive?, List.getLast?_eq_none_iff, List.filter_eq_nil_iff, List.all_eq_true]
  simp only [decide_eq_true_eq, Bool.not_eq_true', decide_eq_false_iff_not]

/-! ### Linking once more -/

/-- A target **holds** an archive if it has all that the archive brings. -/
structure Holds (x : Target) (a : ArchiveEntry) : Prop where
  linkFlags : ∀ flag ∈ a.linkFlags, flag ∈ x.ldflags
  prerequisite : a.output ∈ x.prerequisites
  linker : a.linker = .extended → x.linker = .extended

/-- An archive that is held adds nothing. -/
theorem addArchive_of_holds (h : x.Holds a) : x.addArchive a = x := by
  have hbrought : addAllUnique x.ldflags a.linkFlags = x.ldflags :=
    addAllUnique_of_forall_mem h.linkFlags
  have hflags : addAllUnique (addUnique x.ldflags a.output) a.ldflags = x.ldflags := hbrought
  have hprerequisites : addUnique x.prerequisites a.output = x.prerequisites :=
    if_pos h.prerequisite
  -- the target has been escalated by the archive, if that escalates at all
  have hlinker : x.linker.escalate a.linker = x.linker := by
    cases hx : x.linker with
    | extended => rfl
    | plain =>
      cases ha : a.linker with
      | plain => rfl
      | extended =>
        rw [h.linker ha] at hx
        exact absurd hx Linker.noConfusion
  rw [addArchive, hflags, hprerequisites, hlinker]

/-- Archives that a target holds do not change it. -/
theorem addArchives_of_holds {names : List String}
    (h : ∀ name ∈ names, ∀ a, table.get? name = some a → x.Holds a) :
    x.addArchives table names = x := by
  -- on the names, none of which adds anything
  induction names with
  | nil => rfl
  | cons name names ih =>
    obtain ⟨hname, hrest⟩ := List.forall_mem_cons.1 h
    rw [addArchives]
    cases hget : table.get? name with
    | none => exact ih hrest
    | some a =>
      dsimp only
      rw [addArchive_of_holds (hname a hget)]
      exact ih hrest

/-- **A linked target holds the archives that it refers to.** -/
theorem holds_link {name : String} (hname : name ∈ x.reflibs) (hget : table.get? name = some a) :
    (x.link table).Holds a := by
  have ha : a ∈ x.reflibs.filterMap table.get? := List.mem_filterMap.2 ⟨name, hname, hget⟩
  constructor
  · intro flag hflag
    rw [ldflags_link, mem_addAllUnique]
    exact Or.inr (List.mem_flatMap.2 ⟨a, ha, hflag⟩)
  · rw [prerequisites_link, mem_addAllUnique]
    exact Or.inr (List.mem_map_of_mem ha)
  · intro hlinker
    rw [linker_link]
    exact Or.inr ⟨name, hname, a, hget, hlinker⟩

/-- **Linking once more changes nothing.** -/
theorem link_link (x : Target) (table : ArchiveTable) :
    (x.link table).link table = x.link table := by
  have hagain : (x.link table).link table = (x.link table).addArchives table x.reflibs := by
    rw [link, reflibs_link]
  rw [hagain]
  exact addArchives_of_holds fun name hname a hget => holds_link hname hget

/-! ### The whole resolution -/

/-- **Resolution in closed form.** Whatever targets a table is made from and whatever target is
linked: a reference is answered by the last archive of its name, the references that no archive has
for its name are reported in order, the target takes over what the others bring, and linking it to
the same table once more changes and reports nothing else. -/
theorem link_resolves (ts : List Target) (x : Target) :
    (∀ name, (ArchiveTable.ofTargets ts).get? name =
      (lastArchive? ts name).map fun a => ⟨a.outputPath, a.linker, a.ldflags⟩) ∧
    x.unresolved (ArchiveTable.ofTargets ts) =
      (x.reflibs.filter fun name => ts.all fun a => !(a.kind = .archive ∧ a.name = name)) ∧
    x.LinkedTo ts (x.link (ArchiveTable.ofTargets ts)) ∧
    (x.link (ArchiveTable.ofTargets ts)).link (ArchiveTable.ofTargets ts) =
      x.link (ArchiveTable.ofTargets ts) ∧
    (x.link (ArchiveTable.ofTargets ts)).unresolved (ArchiveTable.ofTargets ts) =
      x.unresolved (ArchiveTable.ofTargets ts) := by
  refine ⟨ArchiveTable.get?_ofTargets_eq ts, unresolved_eq_filter ts x, linkedTo_link ts x,
    link_link x _, ?_⟩
  rw [unresolved, reflibs_link, unresolved]

end Target

end NativeBuild
