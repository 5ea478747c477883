import NativeBuild.Proofs.Asking
import NativeBuild.Proofs.Stock
import Mathlib.Data.List.Flatten

/-!
# A further file only merges groups

The groups of a directory are made in one pass over its names, and which groups are open for a name
depends on the names before. A further name can stand anywhere among them. What it does to the
groups is said by `Absorbs`, without a pass:

* either it **joins** a group, the only one whose key it begins with, and all keys stay as they are;
* or it **leads** a group of its own. Then the groups whose keys begin with it are merged into that
  group, in their order, and all others stay as they are.

`Inventory.group_absorbs` says so of the files of groups, whatever the directives of the files
depend on, and of their sources, if the directives of a file are the same whenever it is asked for
them. No group is ever taken apart (`Absorbs.exists_subset`).

Both runs of the pass are known by the names of their directories (`Inventory.Grouped`), and the
names of one directory are those of the other and one more. So lists are compared here that ascend,
by what they hold (`Ascending.eq_of_mem_iff`).
-/

namespace NativeBuild

/-! ### What a further element does to groups -/

section Absorbs

variable {α β : Type} {name : α → String} {name' : β → String} {a : α}
  {before after : List (String × List α)}

/-- What a **further element** does to groups that are given by their keys and what they hold. -/
inductive Absorbs (name : α → String) (a : α) (before after : List (String × List α)) : Prop where
  /-- It **joins** the only group whose key its name begins with, and all keys stay. -/
  | joins (hone : ∃ x ∈ before, isProperPrefix x.1 (name a) = true ∧
        ∀ y ∈ before, isProperPrefix y.1 (name a) = true → y = x)
      (hkeys : after.map Prod.fst = before.map Prod.fst)
      (hafter : after = before.map fun x =>
        if isProperPrefix x.1 (name a) = true then (x.1, insertAt name a x.2) else x)
  /-- It **leads** a group, as its name begins with no key. The groups whose keys begin with its
  name are merged into that group, and the others stay. -/
  | leads (hfree : ∀ x ∈ before, ¬ x.1.toList <+: (name a).toList)
      (hafter : after = insertAt Prod.fst
        (name a, a :: (before.filter fun x => isProperPrefix (name a) x.1).flatMap Prod.snd)
        (before.filter fun x => !isProperPrefix (name a) x.1))

/-- **No group is taken apart.** -/
theorem Absorbs.exists_subset (h : Absorbs name a before after)
    (hnew : ∀ x ∈ before, ∀ b ∈ x.2, name b ≠ name a) {x : String × List α}
    (hx : x ∈ before) : ∃ y ∈ after, x.2 ⊆ y.2 := by
  cases h with
  | joins hone hkeys hafter =>
    refine ⟨_, hafter ▸ List.mem_map_of_mem hx, ?_⟩
    split
    · exact fun b hb => mem_insertAt_of_mem hb (hnew x hx b hb)
    · exact List.Subset.refl _
  | leads hfree hafter =>
    -- the group goes into the new one, or stays as it is
    cases hmerged : isProperPrefix (name a) x.1 with
    | true =>
      refine ⟨_, hafter ▸ self_mem_insertAt, fun b hb => List.mem_cons_of_mem a ?_⟩
      exact List.mem_flatMap.2 ⟨x, List.mem_filter.2 ⟨hx, hmerged⟩, hb⟩
    | false =>
      have hkey : x.1 ≠ name a := fun heq => hfree x hx (heq ▸ List.prefix_refl _)
      have hstays : x ∈ before.filter fun x => !isProperPrefix (name a) x.1 :=
        List.mem_filter.2 ⟨hx, by rw [hmerged]; rfl⟩
      exact ⟨x, hafter ▸ mem_insertAt_of_mem hstays hkey, List.Subset.refl _⟩

/-- **What keeps the names** keeps what a further element does. -/
theorem Absorbs.map (h : Absorbs name a before after) (f : α → β) (hf : ∀ b, name' (f b) = name b) :
    Absorbs name' (f a) (before.map (Prod.map id (List.map f)))
      (after.map (Prod.map id (List.map f))) := by
  cases h with
  | joins hone hkeys hafter =>
    obtain ⟨x, hx, hbegins, hother⟩ := hone
    refine .joins ⟨_, List.mem_map_of_mem hx, ?_, List.forall_mem_map.2 fun y hy hkey => ?_⟩ ?_ ?_
    · rwa [hf]
    · rw [hf] at hkey
      rw [hother y hy hkey]
    · rw [List.map_map, List.map_map]
      exact hkeys
    · -- an element goes where its name belongs, and that is kept
      rw [hafter, List.map_map, List.map_map]
      refine List.map_congr_left fun y _ => ?_
      dsimp only [Function.comp, Prod.map, id]
      rw [hf]
      split
      · rw [map_insertAt name name' hf]
      · rfl
  | leads hfree hafter =>
    refine .leads (List.forall_mem_map.2 fun x hx => hf a ▸ hfree x hx) ?_
    have hkey : ∀ x : String × List α, (Prod.map id (List.map f) x).1 = x.1 := fun _ => rfl
    rw [hafter, map_insertAt Prod.fst Prod.fst hkey, List.filter_map, List.filter_map, hf,
      List.flatMap_map]
    dsimp only [Function.comp_def, Prod.map, id]
    rw [List.map_cons, List.map_flatMap]

end Absorbs

/-! ### The names of a directory and one more -/

/-- A group by its key and its files. -/
def Group.keyed (g : Group) : String × List SourceFile := (g.key, g.target.files)

/-- A file as a source, with the flags that it declares. -/
def SourceFile.asSource (answer : SourceFile → DirectiveSet) (f : SourceFile) : TargetSource :=
  ⟨f, .ofDirectives (answer f)⟩

/-- A name that is not a proper prefix of another one is no prefix of it either. -/
theorem not_prefix_of_isProperPrefix_eq_false {k s : String} (h : isProperPrefix k s = false)
    (hne : k ≠ s) :
    ¬ k.toList <+: s.toList := by
  intro hbegins
  have hproper := isProperPrefix_of_prefix hbegins hne
  rw [h] at hproper
  exact Bool.false_ne_true hproper

namespace Inventory

variable {inv inv' : Inventory} {file f : SourceFile} {k n : String} {kind : TargetKind}
  {groups groups' : List Group}

/-- The files whose names **begin** with a key. -/
def beginning (inv : Inventory) (key : String) : List SourceFile :=
  inv.files.filter fun f => key.toList.isPrefixOf f.name.toList

/-- The files whose names begin with a key. -/
theorem mem_beginning_iff : f ∈ inv.beginning k ↔ f ∈ inv.files ∧ k.toList <+: f.name.toList := by
  rw [beginning, List.mem_filter, List.isPrefixOf_iff_prefix]

/-- A name leads if no other name of the inventory begins it. -/
theorem isLeading_iff : inv.isLeading n = true ↔ ∀ m ∈ inv.names, isProperPrefix m n = false := by
  simp [isLeading]

theorem mem_names_iff : n ∈ inv.names ↔ ∃ f ∈ inv.files, f.name = n := List.mem_map

/-- The names of an inventory ascend, as its files do. -/
theorem ascending_names (inv : Inventory) : Ascending id inv.names :=
  List.pairwise_map.2 inv.ascending

/-- The groups of an inventory, written out: the names that lead, each with the files that it
begins. -/
theorem Grouped.keyed_eq (h : inv.Grouped kind groups) :
    groups.map Group.keyed = (inv.names.filter inv.isLeading).map fun k =>
      (k, inv.beginning k) := by
  rw [← h.keys, List.map_map]
  exact List.map_congr_left fun g hg => congrArg (Prod.mk g.key) (h.files g hg)

/-- Each name begins with one that leads. -/
theorem Grouped.exists_leading (h : inv.Grouped kind groups) (hn : n ∈ inv.names) :
    ∃ k ∈ inv.names.filter inv.isLeading, k.toList <+: n.toList := by
  obtain ⟨f, hf, rfl⟩ := mem_names_iff.1 hn
  obtain ⟨g, hg, hshortest, -⟩ := h.owner f hf
  exact ⟨g.key, h.keys ▸ List.mem_map_of_mem hg, hshortest.begins⟩

/-- It begins with one only. -/
theorem eq_of_leading {m : String} (hk : k ∈ inv.names.filter inv.isLeading)
    (hm : m ∈ inv.names.filter inv.isLeading) (hkn : k.toList <+: n.toList)
    (hmn : m.toList <+: n.toList) : k = m := by
  obtain ⟨hkmem, hk⟩ := List.mem_filter.1 hk
  obtain ⟨hmmem, hm⟩ := List.mem_filter.1 hm
  by_contra hne
  -- one of the two is a prefix of the other, and then the other does not lead
  rcases List.prefix_or_prefix_of_prefix hkn hmn with h | h
  · exact not_prefix_of_isProperPrefix_eq_false (isLeading_iff.1 hm k hkmem) hne h
  · exact not_prefix_of_isProperPrefix_eq_false (isLeading_iff.1 hk m hmmem) (Ne.symm hne) h

/-- A directory **with one more file**, whose name is new to it. -/
structure Gains (inv : Inventory) (file : SourceFile) (inv' : Inventory) : Prop where
  new : file.name ∉ inv.names
  files : inv'.files = insertAt SourceFile.name file inv.files

/-- A file with a new name is all that an inventory gains when it is put in. -/
theorem gains_of_insert (place : Path) (hnew : file.name ∉ inv.names) :
    ∃ inv', inv.insert file place = .ok inv' ∧ inv.Gains file inv' := by
  have hget : inv.get? file.name = none :=
    lookup_eq_none_iff.2 fun b hb hname => hnew (mem_names_iff.2 ⟨b, hb, hname⟩)
  exact ⟨_, insert_of_none hget, hnew, rfl⟩

namespace Gains

theorem name_ne (h : inv.Gains file inv') (hf : f ∈ inv.files) : f.name ≠ file.name :=
  fun hname => h.new (mem_names_iff.2 ⟨f, hf, hname⟩)

theorem mem_files_iff (h : inv.Gains file inv') : f ∈ inv'.files ↔ f = file ∨ f ∈ inv.files := by
  have hnew : ∀ b ∈ inv.files, SourceFile.name b ≠ SourceFile.name file := fun b hb => h.name_ne hb
  rw [h.files, mem_insertAt_iff hnew]

theorem mem_names_iff (h : inv.Gains file inv') : n ∈ inv'.names ↔
    n = file.name ∨ n ∈ inv.names := by
  simp only [Inventory.mem_names_iff, h.mem_files_iff, or_and_right, exists_or, exists_eq_left]
  exact or_congr_left eq_comm

theorem isLeading_iff (h : inv.Gains file inv') :
    inv'.isLeading n = true ↔ isProperPrefix file.name n = false ∧ inv.isLeading n = true := by
  simp only [Inventory.isLeading_iff, h.mem_names_iff, forall_eq_or_imp]

/-- The further file is among those whose names begin with a key if its own does. -/
theorem beginning_eq (h : inv.Gains file inv') (k : String) : inv'.beginning k =
    if k.toList <+: file.name.toList then insertAt SourceFile.name file (inv.beginning k)
    else inv.beginning k := by
  have hasc : Ascending SourceFile.name (inv.beginning k) := inv.ascending.filter _
  have hasc' : Ascending SourceFile.name (inv'.beginning k) := inv'.ascending.filter _
  have hnew : ∀ b ∈ inv.beginning k, b.name ≠ file.name :=
    fun b hb => h.name_ne (mem_beginning_iff.1 hb).1
  -- all these lists ascend, so it is enough to say what they hold
  split
  · rename_i hbegins
    refine Ascending.eq_of_mem_iff hasc' hasc.insertAt fun f => ?_
    rw [mem_insertAt_iff hnew, mem_beginning_iff, mem_beginning_iff, h.mem_files_iff, or_and_right]
    refine or_congr_left (and_iff_left_of_imp ?_)
    rintro rfl
    exact hbegins
  · rename_i hbegins
    refine Ascending.eq_of_mem_iff hasc' hasc fun f => ?_
    rw [mem_beginning_iff, mem_beginning_iff, h.mem_files_iff, or_and_right, or_iff_right]
    rintro ⟨rfl, hf⟩
    exact hbegins hf

/-- **The further name begins with another**: then the same names lead as before. -/
theorem leading_of_begins (h : inv.Gains file inv') (hk : k ∈ inv.names)
    (hbegins : isProperPrefix k file.name = true) :
    inv'.names.filter inv'.isLeading = inv.names.filter inv.isLeading := by
  have hasc : Ascending id (inv.names.filter inv.isLeading) := (ascending_names inv).filter _
  have hasc' : Ascending id (inv'.names.filter inv'.isLeading) := (ascending_names inv').filter _
  refine Ascending.eq_of_mem_iff hasc' hasc fun n => ?_
  rw [List.mem_filter, List.mem_filter, h.mem_names_iff, h.isLeading_iff]
  constructor
  · rintro ⟨rfl | hn, -, hleading⟩
    · rw [Inventory.isLeading_iff.1 hleading k hk] at hbegins
      exact absurd hbegins Bool.false_ne_true
    · exact ⟨hn, hleading⟩
  · rintro ⟨hn, hleading⟩
    refine ⟨.inr hn, Bool.eq_false_iff.2 fun hfile => ?_, hleading⟩
    -- what begins with the further name begins with the other one as well
    exact absurd (Inventory.isLeading_iff.1 hleading k hk)
      (by simp [isProperPrefix_trans hbegins hfile])

/-- **It begins with no other**: then it leads, and the names that begin with it do so no longer. -/
theorem leading_of_free (h : inv.Gains file inv')
    (hfree : ∀ k ∈ inv.names, isProperPrefix k file.name = false) :
    inv'.names.filter inv'.isLeading = insertAt id file.name
      ((inv.names.filter inv.isLeading).filter fun k => !isProperPrefix file.name k) := by
  have hasc :
      Ascending id ((inv.names.filter inv.isLeading).filter fun k => !isProperPrefix file.name k) :=
    ((ascending_names inv).filter _).filter _
  have hasc' : Ascending id (inv'.names.filter inv'.isLeading) := (ascending_names inv').filter _
  have hnew : ∀ k ∈ (inv.names.filter inv.isLeading).filter fun k => !isProperPrefix file.name k,
      id k ≠ id file.name := by
    rintro k hk rfl
    exact h.new (List.mem_filter.1 (List.mem_filter.1 hk).1).1
  -- what leads afterwards is the name itself, or led before and does not begin with it
  refine Ascending.eq_of_mem_iff hasc' hasc.insertAt fun n => ?_
  rw [mem_insertAt_iff hnew]
  simp only [List.mem_filter, h.mem_names_iff, h.isLeading_iff, Bool.not_eq_true']
  constructor
  · rintro ⟨rfl | hn, hlate, hleading⟩
    · exact .inl rfl
    · exact .inr ⟨⟨hn, hleading⟩, hlate⟩
  · rintro (rfl | ⟨⟨hn, hleading⟩, hlate⟩)
    · refine ⟨.inl rfl, ?_, Inventory.isLeading_iff.2 hfree⟩
      simp [isProperPrefix]
    · exact ⟨.inr hn, hlate, hleading⟩

theorem ne_of_leading (h : inv.Gains file inv') (hk : k ∈ inv.names.filter inv.isLeading) :
    k ≠ file.name := by
  rintro rfl
  exact h.new (List.mem_filter.1 hk).1

/-- The files that the further one leads are those of the groups that are merged. -/
theorem beginning_name_eq (h : inv.Gains file inv') (hgroups : inv.Grouped kind groups)
    (hfiles : groups.flatMap (fun g => g.target.files) = inv.files)
    (hnone : ∀ k ∈ inv.names.filter inv.isLeading, ¬ k.toList <+: file.name.toList) :
    inv.beginning file.name =
      (groups.filter fun g => isProperPrefix file.name g.key).flatMap fun g => g.target.files := by
  have hkey : ∀ g ∈ groups, g.key ∈ inv.names.filter inv.isLeading :=
    fun g hg => hgroups.keys ▸ List.mem_map_of_mem hg
  have hsublist : List.Sublist
      ((groups.filter fun g => isProperPrefix file.name g.key).flatMap fun g => g.target.files)
        inv.files :=
    hfiles ▸ List.filter_sublist.flatMap _
  have hasc : Ascending SourceFile.name (inv.beginning file.name) := inv.ascending.filter _
  refine Ascending.eq_of_mem_iff hasc (inv.ascending.sublist hsublist) fun f => ?_
  simp only [mem_beginning_iff, List.mem_flatMap, List.mem_filter]
  constructor
  · rintro ⟨hf, hbegins⟩
    obtain ⟨g, hg, hshortest, howner⟩ := hgroups.owner f hf
    refine ⟨g, ⟨hg, ?_⟩, (howner g hg).2 rfl⟩
    -- of the two names that the file begins with the key is the longer one
    rcases List.prefix_or_prefix_of_prefix hshortest.begins hbegins with hprefix | hprefix
    · exact absurd hprefix (hnone g.key (hkey g hg))
    · exact isProperPrefix_of_prefix hprefix (h.ne_of_leading (hkey g hg)).symm
  · rintro ⟨g, ⟨hg, hprefix⟩, hf⟩
    rw [hgroups.files g hg] at hf
    obtain ⟨hf, hbegins⟩ := mem_beginning_iff.1 hf
    exact ⟨hf, (isProperPrefix_iff.1 hprefix).1.trans hbegins⟩

/-- A file whose name begins with one that is there makes no group. -/
theorem joins (h : inv.Gains file inv') (hgroups : inv.Grouped kind groups)
    (hgroups' : inv'.Grouped kind groups') (hk : k ∈ inv.names)
    (hbegins : isProperPrefix k file.name = true) :
    Absorbs SourceFile.name file (groups.map Group.keyed) (groups'.map Group.keyed) := by
  -- the name begins with a leading one, as the other does with which it begins
  obtain ⟨m, hm, hmk⟩ := hgroups.exists_leading hk
  have hmfile : m.toList <+: file.name.toList := hmk.trans (isProperPrefix_iff.1 hbegins).1
  rw [hgroups.keyed_eq, hgroups'.keyed_eq, h.leading_of_begins hk hbegins]
  refine .joins ⟨_, List.mem_map_of_mem hm, isProperPrefix_of_prefix hmfile (h.ne_of_leading hm),
    ?_⟩ ?_ ?_
  · -- two keys with which the name begins are one
    refine List.forall_mem_map.2 fun l hl hlfile => ?_
    rw [eq_of_leading hl hm (isProperPrefix_iff.1 hlfile).1 hmfile]
  · rw [List.map_map, List.map_map]
    rfl
  · -- the group of a key gets the file if the name begins with the key
    rw [List.map_map]
    refine List.map_congr_left fun l hl => ?_
    have hprefix : l.toList <+: file.name.toList ↔ isProperPrefix l file.name = true := by
      rw [isProperPrefix_iff, and_iff_left (h.ne_of_leading hl)]
    rw [h.beginning_eq, apply_ite (Prod.mk l)]
    exact if_congr hprefix rfl rfl

/-- A file whose name begins with none leads a group. -/
theorem leads (h : inv.Gains file inv') (hgroups : inv.Grouped kind groups)
    (hgroups' : inv'.Grouped kind groups')
    (hfiles : groups.flatMap (fun g => g.target.files) = inv.files)
    (hfree : ∀ k ∈ inv.names, isProperPrefix k file.name = false) :
    Absorbs SourceFile.name file (groups.map Group.keyed) (groups'.map Group.keyed) := by
  have hnone : ∀ k ∈ inv.names.filter inv.isLeading, ¬ k.toList <+: file.name.toList := by
    intro k hk
    exact not_prefix_of_isProperPrefix_eq_false (hfree k (List.mem_filter.1 hk).1)
      (h.ne_of_leading hk)
  -- the file is the first of its group, since its name is a prefix of the others
  have hled : inv'.beginning file.name =
      file :: ((groups.map Group.keyed).filter fun x =>
        isProperPrefix file.name x.1).flatMap Prod.snd := by
    have hafter : ∀ f ∈ inv.beginning file.name, file.name < f.name := by
      intro f hf
      obtain ⟨hf, hbegins⟩ := mem_beginning_iff.1 hf
      exact lt_of_isProperPrefix <| isProperPrefix_of_prefix hbegins (h.name_ne hf).symm
    rw [h.beginning_eq, if_pos (List.prefix_refl _), insertAt_of_forall_lt hafter,
      h.beginning_name_eq hgroups hfiles hnone, List.filter_map, List.flatMap_map]
    rfl
  -- a group that is not merged has no file that begins with the further name
  have hkept : ((groups.map Group.keyed).filter fun x => !isProperPrefix file.name x.1) =
      ((inv.names.filter inv.isLeading).filter fun k => !isProperPrefix file.name k).map
        fun k => (k, inv'.beginning k) := by
    rw [hgroups.keyed_eq, List.filter_map]
    refine List.map_congr_left fun k hk => ?_
    rw [h.beginning_eq, if_neg (hnone k (List.mem_filter.1 hk).1)]
  refine .leads ?_ ?_
  · rw [hgroups.keyed_eq]
    exact List.forall_mem_map.2 hnone
  · rw [hgroups'.keyed_eq, h.leading_of_free hfree, map_insertAt id Prod.fst (fun _ => rfl),
      hled, hkept]

/-- **The groups of a directory with one more file.** -/
theorem absorbs (h : inv.Gains file inv') (hgroups : inv.Grouped kind groups)
    (hgroups' : inv'.Grouped kind groups')
    (hfiles : groups.flatMap (fun g => g.target.files) = inv.files) :
    Absorbs SourceFile.name file (groups.map Group.keyed) (groups'.map Group.keyed) := by
  by_cases hbegins : ∃ k ∈ inv.names, isProperPrefix k file.name = true
  · obtain ⟨k, hk, hbegins⟩ := hbegins
    exact h.joins hgroups hgroups' hk hbegins
  · exact h.leads hgroups hgroups' hfiles (by simpa using hbegins)

end Gains

/-! ### What groups are merged from -/

variable {runtime : String} {dss : List DirectiveSet}

theorem grouped_merged (h : dss.length = inv.files.length) :
    inv.Grouped kind (inv.merged kind runtime dss) :=
  grouped_clusters kind runtime (List.map_fst_zip h.ge)

/-- The files of the groups, one group after the other, are those of the directory in their
order. -/
theorem flatMap_files_merged (h : dss.length = inv.files.length) :
    (inv.merged kind runtime dss).flatMap (fun g => g.target.files) = inv.files := by
  have hcluster : ∀ c : Declared × List Declared,
      (Group.ofCluster ⟨inv.dir, kind, runtime⟩ c).target.files = (c.1 :: c.2).map Prod.fst := by
    intro c
    rw [Group.ofCluster, Target.files_addFiles, Target.files_empty, List.nil_append]
  calc (inv.merged kind runtime dss).flatMap (fun g => g.target.files)
      = ((clusters (inv.files.zip dss)).flatMap fun c => c.1 :: c.2).map Prod.fst := by
        rw [merged, List.flatMap_map, List.map_flatMap]
        exact List.flatMap_congr fun c _ => hcluster c
    _ = inv.files := by rw [flatMap_clusters, List.map_fst_zip h.ge]

/-- If directives depend on the file alone, so do sources. -/
theorem sources_of_mem_merged {answer : SourceFile → DirectiveSet}
    (h : ∀ x ∈ inv.files.zip dss, x.2 = answer x.1) {g : Group}
    (hg : g ∈ inv.merged kind runtime dss) :
    g.target.sources = g.target.files.map (SourceFile.asSource answer) := by
  obtain ⟨c, hc, rfl⟩ := List.mem_map.1 hg
  have hmem : ∀ y ∈ c.1 :: c.2, y.2 = answer y.1 := fun y hy => h y ((cluster_sublist hc).subset hy)
  rw [Group.ofCluster, Target.files_addFiles, Target.sources_addFiles, Target.files_empty,
    List.nil_append, List.map_map]
  exact List.map_congr_left fun y hy => by rw [hmem y hy]; rfl

end Inventory

/-! ### Asking -/

section Asking

variable {σ ε α β : Type}

/-- A computation **may give** a result: it does so in some state. -/
def MayGive (x : StateT σ (Except ε) α) (a : α) : Prop := ∃ s s', x.run s = .ok (a, s')

/-- **Computations that never fail** can be made in turn. -/
theorem exists_run_mapM {x : α → StateT σ (Except ε) β} {as : List α}
    (h : ∀ a ∈ as, NeverFails (x a)) (s : σ) :
    ∃ bs s', (as.mapM x).run s = .ok (bs, s') ∧ bs.length = as.length ∧ ∀ y ∈ as.zip bs,
      MayGive (x y.1) y.2 := by
  -- on the list, from whatever state the elements before have left
  induction as generalizing s with
  | nil => exact ⟨[], s, rfl, rfl, by simp⟩
  | cons a as ih =>
    obtain ⟨ha, has⟩ := List.forall_mem_cons.1 h
    obtain ⟨b, s₁, hb⟩ := ha s
    obtain ⟨bs, s₂, hbs, hlen, hgive⟩ := ih has s₁
    refine ⟨b :: bs, s₂, ?_, congrArg (· + 1) hlen, ?_⟩
    · rw [List.mapM_cons, StateT.run_bind, hb]
      show ((as.mapM x >>= fun bs => pure (b :: bs)).run s₁) = _
      rw [StateT.run_bind, hbs]
      rfl
    · rw [List.zip_cons_cons]
      exact List.forall_mem_cons.2 ⟨⟨s, s₁, hb⟩, hgive⟩

variable {onJoin : SourceFile → String → StateT σ (Except ε) Unit}
  {directivesOf : SourceFile → StateT σ (Except ε) DirectiveSet}

/-- Asking for a file reports at most once, so it goes through where both do. -/
theorem neverFails_askFor (hjoin : ∀ f key, NeverFails (onJoin f key)) {f : SourceFile}
    (hf : NeverFails (directivesOf f)) (names : List String) :
    NeverFails (askFor onJoin directivesOf names f) := by
  intro s
  obtain ⟨ds, s₁, hds⟩ := hf s
  rw [askFor, StateT.run_bind, hds]
  -- a file that joins nothing is not reported
  cases firstOpen names f.name with
  | none => exact ⟨ds, s₁, rfl⟩
  | some key =>
    obtain ⟨⟨⟩, s₂, hreport⟩ := hjoin f key s₁
    refine ⟨ds, s₂, ?_⟩
    show ((onJoin f key >>= fun _ => pure ds).run s₁) = _
    rw [StateT.run_bind, hreport]
    rfl

/-- Reporting does not change the answer. -/
theorem mayGive_of_askFor {names : List String} {f : SourceFile} {ds : DirectiveSet}
    (h : MayGive (askFor onJoin directivesOf names f) ds) : MayGive (directivesOf f) ds := by
  obtain ⟨s, s', h⟩ := h
  rw [askFor] at h
  obtain ⟨ds', s₁, hds, hrest⟩ := exists_of_run_bind h
  refine ⟨s, s₁, ?_⟩
  rw [hds]
  split at hrest
  · obtain ⟨_, s₂, -, hpure⟩ := exists_of_run_bind hrest
    rw [(Prod.mk.inj (Except.ok.inj hpure)).1]
  · rw [(Prod.mk.inj (Except.ok.inj hrest)).1]

/-- **The groups of a directory** are to be had if directives are never refused. -/
theorem Inventory.exists_run_group (inv : Inventory) (kind : TargetKind) (runtime : String)
    (hjoin : ∀ f key, NeverFails (onJoin f key)) (hdirectives : ∀ f, NeverFails (directivesOf f))
    (s : σ) :
    ∃ dss s', (inv.group kind runtime onJoin directivesOf).run s =
      .ok (inv.merged kind runtime dss, s') ∧
      dss.length = inv.files.length ∧ ∀ x ∈ inv.files.zip dss, MayGive (directivesOf x.1) x.2 := by
  have hask : ∀ f ∈ inv.files, NeverFails (askFor onJoin directivesOf inv.names f) :=
    fun f _ => neverFails_askFor hjoin (hdirectives f) inv.names
  obtain ⟨dss, s', hrun, hlen, hgive⟩ := exists_run_mapM hask s
  refine ⟨dss, s', ?_, hlen, fun x hx => mayGive_of_askFor (hgive x hx)⟩
  rw [inv.group_eq_mapM kind runtime, StateT.run_bind, hrun]
  rfl

/-- **A further file only merges groups.** If directives are never refused, a directory has groups
before and after a file with a new name comes to it. Files that have been in one group stay in one.
The file joins a group, and then all keys stay; or it leads one, into which those groups are merged
whose keys begin with its name. All other groups keep their keys and their files; and their sources,
if the directives of a file do not change. -/
theorem Inventory.group_absorbs (inv : Inventory) (file : SourceFile) (hnew : file.name ∉ inv.names)
    (place : Path) (kind : TargetKind) (runtime : String)
    (hjoin : ∀ f key, NeverFails (onJoin f key)) (hdirectives : ∀ f, NeverFails (directivesOf f))
    (s s' : σ) :
    ∃ inv' groups s₁ groups' s₁', inv.insert file place = .ok inv' ∧
      (inv.group kind runtime onJoin directivesOf).run s = .ok (groups, s₁) ∧
      (inv'.group kind runtime onJoin directivesOf).run s' = .ok (groups', s₁') ∧
      (∀ g ∈ groups, ∃ g' ∈ groups', g.target.files ⊆ g'.target.files) ∧
      Absorbs SourceFile.name file (groups.map fun g => (g.key, g.target.files))
        (groups'.map fun g => (g.key, g.target.files)) ∧
      ∀ answer : SourceFile → DirectiveSet, (∀ f ds, MayGive (directivesOf f) ds → ds = answer f) →
        Absorbs (fun x : TargetSource => x.file.name) (file.asSource answer)
          (groups.map fun g => (g.key, g.target.sources))
            (groups'.map fun g => (g.key, g.target.sources)) := by
  obtain ⟨inv', hinsert, hgains⟩ := gains_of_insert place hnew
  obtain ⟨dss, s₁, hrun, hlen, hgive⟩ := inv.exists_run_group kind runtime hjoin hdirectives s
  obtain ⟨dss', s₁', hrun', hlen', hgive'⟩ :=
    inv'.exists_run_group kind runtime hjoin hdirectives s'
  have hgrouped : inv.Grouped kind (inv.merged kind runtime dss) := grouped_merged hlen
  have hgrouped' : inv'.Grouped kind (inv'.merged kind runtime dss') := grouped_merged hlen'
  have habsorbs := hgains.absorbs hgrouped hgrouped' (flatMap_files_merged hlen)
  refine ⟨inv', _, s₁, _, s₁', hinsert, hrun, hrun', fun g hg => ?_, habsorbs,
    fun answer hsteady => ?_⟩
  · -- the files of groups are files of the directory, and none of these has the new name
    have hname : ∀ x ∈ (inv.merged kind runtime dss).map Group.keyed, ∀ f ∈ x.2,
        f.name ≠ file.name := by
      refine List.forall_mem_map.2 fun h hh f hf => hgains.name_ne ?_
      rw [← flatMap_files_merged hlen]
      exact List.mem_flatMap.2 ⟨h, hh, hf⟩
    obtain ⟨y, hy, hsubset⟩ := habsorbs.exists_subset hname (List.mem_map_of_mem hg)
    obtain ⟨g', hg', rfl⟩ := List.mem_map.1 hy
    exact ⟨g', hg', hsubset⟩
  · -- sources are made of the files, one by one
    have hsources : ∀ {i : Inventory} {ds : List DirectiveSet},
        (∀ x ∈ i.files.zip ds, MayGive (directivesOf x.1) x.2) →
        (i.merged kind runtime ds).map (fun g => (g.key, g.target.sources)) =
          ((i.merged kind runtime ds).map Group.keyed).map
            (Prod.map id (List.map (SourceFile.asSource answer))) := by
      intro i ds hds
      rw [List.map_map]
      refine List.map_congr_left fun g hg => ?_
      rw [sources_of_mem_merged (fun x hx => hsteady _ _ (hds x hx)) hg]
      rfl
    rw [hsources hgive, hsources hgive']
    exact habsorbs.map (SourceFile.asSource answer) fun _ => rfl

end Asking

/-! ### A directory whose groups are merged -/

namespace SimilarNames

/-- Names of which two begin with `a`, and do not begin with each other. -/
def parted : Inventory where
  dir := "net"
  files := ["ab", "abc", "ac", "b"].map file
  ascending := by
    unfold Ascending
    decide_cbv

/-- Each file declares a flag with its name. -/
def flagsOf (f : SourceFile) : DirectiveSet := ⟨[.cflags ("-D" ++ f.name)], List.nodup_singleton _⟩

/-- Counts the files that it is asked about; the answers do not depend on the count. -/
def countedFlagsOf (f : SourceFile) : StateT Nat (Except BuildError) DirectiveSet :=
  fun n => .ok (flagsOf f, n + 1)

/-- The groups `ab` and `ac` are merged when the file `a` comes. -/
theorem a_absorbs :
    ∃ inv' groups s₁ groups' s₁', parted.insert (file "a") (.ofString "net") = .ok inv' ∧
    (parted.group .module "-lstdc++" (fun _ _ => pure ()) countedFlagsOf).run 0 = .ok (groups, s₁) ∧
    (inv'.group .module "-lstdc++" (fun _ _ => pure ()) countedFlagsOf).run 4 = .ok (groups', s₁') ∧
    groups.map Group.key = ["ab", "ac", "b"] ∧ groups'.map Group.key = ["a", "b"] ∧
    Absorbs (fun x : TargetSource => x.file.name) ((file "a").asSource flagsOf)
      (groups.map fun g => (g.key, g.target.sources))
        (groups'.map fun g => (g.key, g.target.sources)) := by
  have hjoin :
      ∀ (_ : SourceFile) (_ : String), NeverFails (pure () : StateT Nat (Except BuildError) Unit) :=
    fun _ _ s => ⟨(), s, rfl⟩
  have hflags : ∀ f, NeverFails (countedFlagsOf f) := fun f n => ⟨flagsOf f, n + 1, rfl⟩
  obtain ⟨inv', groups, s₁, groups', s₁', hinsert, hrun, hrun', -, -, hsteady⟩ :=
    Inventory.group_absorbs parted (file "a") (by decide_cbv) (.ofString "net") .module "-lstdc++"
      hjoin hflags 0 4
  have hkeys : ((parted.group .module "-lstdc++" (fun _ _ => pure ()) countedFlagsOf).run 0).map
      (fun r => r.1.map Group.key) = .ok ["ab", "ac", "b"] := by cbv
  have hkeys' : ((parted.insert (file "a") (.ofString "net")).bind fun inv' =>
      (inv'.group .module "-lstdc++" (fun _ _ => pure ()) countedFlagsOf).run 4).map
        (fun r => r.1.map Group.key) = .ok ["a", "b"] := by cbv
  rw [hrun] at hkeys
  rw [hinsert, Except.bind, hrun'] at hkeys'
  refine ⟨inv', groups, s₁, groups', s₁', hinsert, hrun, hrun', Except.ok.inj hkeys,
    Except.ok.inj hkeys', ?_⟩
  refine hsteady flagsOf ?_
  rintro f ds ⟨n, n', hgive⟩
  exact (Prod.mk.inj (Except.ok.inj hgive)).1.symm

end SimilarNames

end NativeBuild
