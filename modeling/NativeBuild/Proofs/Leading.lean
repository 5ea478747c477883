import NativeBuild.Proofs.Encoding
import NativeBuild.Proofs.Targets
import Mathlib.Data.List.TakeWhile

/-!
# Groups by leading names

The grouping loop looks at which groups are open when a file comes by. What it arrives at can be
said without the loop, by the names of the directory alone. A name is **leading** if no other name
of the directory is a prefix of it. Each leading name is the key of a group, and the group holds the
files whose names begin with the key. So each file is in one group, and the key is the shortest name
of the directory that its own name begins with (`Inventory.Grouped`).

The proof goes through clusters, which the loop is known to build. Three facts determine them:

* each file is in a cluster (`exists_cluster`), and its name begins with that of the leader
  (`prefix_of_mem_cluster`);
* no leader's name is a prefix of another's (`eq_of_prefix_of_clusters`): a later one with an
  earlier one's name as a prefix would be a follower;
* of two prefixes of one name one is a prefix of the other.

So a file is in the cluster of every leader whose name it begins with (`mem_cluster_iff`).

Directives may be had from anything that keeps a state and may fail: a loop that is never refused
any ends with the same groups as one that is told them beforehand (`exists_run_groupWith`).
-/

namespace NativeBuild

/-! ### Proper prefixes -/

section Prefixes

variable {k x s : String}

/-- A prefix that is another name is a proper one. -/
theorem isProperPrefix_of_prefix (h : k.toList <+: s.toList) (hne : k ≠ s) :
    isProperPrefix k s = true :=
  isProperPrefix_iff.2 ⟨h, hne⟩

/-- A proper prefix of a name comes before it. -/
theorem lt_of_isProperPrefix (h : isProperPrefix k s = true) : k < s := by
  obtain ⟨hbegins, hne⟩ := isProperPrefix_iff.1 h
  rcases lt_trichotomy k s with hlt | heq | hgt
  · exact hlt
  · exact absurd heq hne
  · exact absurd (String.lt_iff_toList_lt.1 hgt) (List.IsPrefix.le hbegins)

/-- A key that is no prefix of a name behind it is none of the names after that. -/
theorem isProperPrefix_eq_false_of_lt (hkx : k < x) (hxs : x < s) (h : isProperPrefix k x = false) :
    isProperPrefix k s = false := by
  rw [Bool.eq_false_iff] at h ⊢
  -- names with the prefix are neighbours, and `x` stands between
  exact fun hks => h (isProperPrefix_of_between hkx hxs hks)

end Prefixes

/-! ### What clusters are made of -/

section Clusters

variable {xs : List Declared} {c d : Declared × List Declared} {x y : Declared}

/-- The files of a cluster are files of the list, in its order. -/
theorem cluster_sublist (hc : c ∈ clusters xs) : List.Sublist (c.1 :: c.2) xs := by
  have hparts : List.Sublist (c.1 :: c.2) ((clusters xs).flatMap fun c => c.1 :: c.2) :=
    List.sublist_flatten_of_mem (List.mem_map_of_mem hc)
  rwa [flatMap_clusters] at hparts

/-- **Each file is in a cluster.** -/
theorem exists_cluster (hx : x ∈ xs) : ∃ c ∈ clusters xs, x ∈ c.1 :: c.2 := by
  rw [← flatMap_clusters xs] at hx
  exact List.mem_flatMap.1 hx

/-- What follows in a group begins with the name of its leader. -/
theorem leads_of_mem_followers (hc : c ∈ clusters xs) (hy : y ∈ c.2) :
    leads c.1.1.name y = true := by
  fun_induction clusters xs with
  | case1 => exact absurd hc List.not_mem_nil
  | case2 x rest ih =>
    rcases List.mem_cons.1 hc with rfl | hc
    · exact List.mem_takeWhile_imp hy
    · exact ih hc

/-- **Names in a cluster begin with that of the leader.** -/
theorem prefix_of_mem_cluster (hc : c ∈ clusters xs) (hy : y ∈ c.1 :: c.2) :
    c.1.1.name.toList <+: y.1.name.toList := by
  rcases List.mem_cons.1 hy with rfl | hy
  · exact List.prefix_refl _
  · exact (isProperPrefix_iff.1 (leads_of_mem_followers hc hy)).1

/-- A name that does not lead a file leads none after it. -/
theorem leads_eq_false_of_mem_dropWhile {k : String}
    (hxs : Ascending (fun x : Declared => x.1.name) xs) (hk : ∀ x ∈ xs, k < x.1.name)
    (hy : y ∈ xs.dropWhile (leads k)) : leads k y = false := by
  -- on the files, which come in ascending order
  induction xs with
  | nil => exact absurd hy List.not_mem_nil
  | cons x rest ih =>
    obtain ⟨hx, hrest⟩ := ascending_cons.1 hxs
    cases hlead : leads k x with
    | true =>
      rw [List.dropWhile_cons_of_pos hlead] at hy
      exact ih hrest (fun z hz => hk z (List.mem_cons_of_mem x hz)) hy
    | false =>
      -- `x` is the first file that is not led, and all others come after it
      rw [List.dropWhile_cons_of_neg (by simp [hlead])] at hy
      rcases List.mem_cons.1 hy with rfl | hy
      · exact hlead
      · exact isProperPrefix_eq_false_of_lt (hk x List.mem_cons_self) (hx y hy) hlead

/-- **No leader's name is a prefix of another's.** -/
theorem eq_of_prefix_of_clusters (hxs : Ascending (fun x : Declared => x.1.name) xs)
    (hc : c ∈ clusters xs) (hd : d ∈ clusters xs)
    (h : c.1.1.name.toList <+: d.1.1.name.toList) : c = d := by
  fun_induction clusters xs with
  | case1 => exact absurd hc List.not_mem_nil
  | case2 x rest ih =>
    obtain ⟨hx, hrest⟩ := ascending_cons.1 hxs
    -- leaders that come later are files that `x` does not lead
    have hlater : ∀ e ∈ clusters (rest.dropWhile (leads x.1.name)),
        e.1 ∈ rest.dropWhile (leads x.1.name) := by
      intro e he
      exact (cluster_sublist he).subset List.mem_cons_self
    have hafter : ∀ e ∈ clusters (rest.dropWhile (leads x.1.name)), x.1.name < e.1.1.name := by
      intro e he
      apply hx
      exact (List.dropWhile_sublist _).subset (hlater e he)
    rcases List.mem_cons.1 hc with rfl | hc <;> rcases List.mem_cons.1 hd with rfl | hd
    · rfl
    · -- `x` would lead `d`, which comes after the files that it leads
      have hlead : leads x.1.name d.1 = true :=
        isProperPrefix_of_prefix h (String.ne_of_lt (hafter d hd))
      rw [leads_eq_false_of_mem_dropWhile hrest hx (hlater d hd)] at hlead
      exact absurd hlead Bool.false_ne_true
    · -- a prefix of `x` would come before it, and `c` comes later
      exact absurd (String.lt_iff_toList_lt.1 (hafter c hc)) (List.IsPrefix.le h)
    · exact ih (hrest.sublist (List.dropWhile_sublist _)) hc hd

/-- A name begins with one leader's name at most. -/
theorem eq_of_prefixes (hxs : Ascending (fun x : Declared => x.1.name) xs) (hc : c ∈ clusters xs)
    (hd : d ∈ clusters xs) {name : List Char} (hcn : c.1.1.name.toList <+: name)
    (hdn : d.1.1.name.toList <+: name) :
    c = d := by
  rcases List.prefix_or_prefix_of_prefix hcn hdn with h | h
  · exact eq_of_prefix_of_clusters hxs hc hd h
  · exact (eq_of_prefix_of_clusters hxs hd hc h).symm

/-- **A file is in the cluster of every leader whose name it begins with.** -/
theorem mem_cluster_iff (hxs : Ascending (fun x : Declared => x.1.name) xs) (hc : c ∈ clusters xs) :
    x ∈ c.1 :: c.2 ↔ x ∈ xs ∧ c.1.1.name.toList <+: x.1.name.toList := by
  constructor
  · intro hx
    exact ⟨(cluster_sublist hc).subset hx, prefix_of_mem_cluster hc hx⟩
  · rintro ⟨hx, hbegins⟩
    obtain ⟨d, hd, hxd⟩ := exists_cluster hx
    rwa [eq_of_prefixes hxs hc hd hbegins (prefix_of_mem_cluster hd hxd)]

/-- A group is found by the name of its leader. -/
theorem cluster_eq_filter (hxs : Ascending (fun x : Declared => x.1.name) xs)
    (hc : c ∈ clusters xs) :
    c.1 :: c.2 = xs.filter fun x => c.1.1.name.toList.isPrefixOf x.1.name.toList := by
  refine Ascending.eq_of_mem_iff (hxs.sublist (cluster_sublist hc)) (hxs.filter _) fun x => ?_
  rw [mem_cluster_iff hxs hc, List.mem_filter, List.isPrefixOf_iff_prefix]

/-- **The leaders** are the files that no other leads. -/
theorem leaders_eq_filter (hxs : Ascending (fun x : Declared => x.1.name) xs) :
    (clusters xs).map Prod.fst = xs.filter fun x => xs.all fun y => !leads y.1.name x := by
  refine Ascending.eq_of_mem_iff (hxs.sublist (leaders_sublist xs)) (hxs.filter _) fun x => ?_
  rw [List.mem_map, List.mem_filter, List.all_eq_true]
  constructor
  · rintro ⟨c, hc, rfl⟩
    refine ⟨(cluster_sublist hc).subset List.mem_cons_self, fun y hy => ?_⟩
    show (!leads y.1.name c.1) = true
    rw [Bool.not_eq_true', Bool.eq_false_iff]
    intro hlead
    -- what leads `c` begins with a leader's name itself, which is `c` then
    obtain ⟨d, hd, hyd⟩ := exists_cluster hy
    have hbegins : d.1.1.name.toList <+: c.1.1.name.toList :=
      (prefix_of_mem_cluster hd hyd).trans (isProperPrefix_iff.1 hlead).1
    obtain rfl := eq_of_prefix_of_clusters hxs hd hc hbegins
    exact absurd (String.lt_iff_toList_lt.1 (lt_of_isProperPrefix hlead))
      (List.IsPrefix.le (prefix_of_mem_cluster hd hyd))
  · rintro ⟨hx, hnone⟩
    obtain ⟨c, hc, hxc⟩ := exists_cluster hx
    refine ⟨c, hc, ?_⟩
    rcases List.mem_cons.1 hxc with rfl | hxc
    · rfl
    · -- a follower is led by its leader
      have hfree := hnone c.1 ((cluster_sublist hc).subset List.mem_cons_self)
      rw [leads_of_mem_followers hc hxc] at hfree
      exact absurd hfree Bool.false_ne_true

end Clusters

/-! ### What groups mean -/

/-- Is the name **leading**: is no other name of the directory a prefix of it? -/
def Inventory.isLeading (inv : Inventory) (name : String) : Bool :=
  inv.names.all fun other => !isProperPrefix other name

/-- The key is the **shortest name of the directory** that the name begins with. -/
structure Inventory.Shortest (inv : Inventory) (key name : String) : Prop where
  mem : key ∈ inv.names
  begins : key.toList <+: name.toList
  least : ∀ other ∈ inv.names, other.toList <+: name.toList → key.length ≤ other.length

/-- **What the groups of a directory are**, said by its names. -/
structure Inventory.Grouped (inv : Inventory) (kind : TargetKind) (groups : List Group) : Prop where
  /-- The keys are the leading names. -/
  keys : groups.map Group.key = inv.names.filter inv.isLeading
  /-- They ascend, byte by byte. -/
  ascending : groups.Pairwise fun g h => Utf8.encode g.key.toList < Utf8.encode h.key.toList
  /-- A group holds the files whose names begin with its key, -/
  files : ∀ g ∈ groups, g.target.files = inv.files.filter fun f =>
    g.key.toList.isPrefixOf f.name.toList
  /-- in ascending order of their names, -/
  files_ascending : ∀ g ∈ groups,
    g.target.files.Pairwise fun e f => Utf8.encode e.name.toList < Utf8.encode f.name.toList
  /-- that of the key first. -/
  first : ∀ g ∈ groups, g.target.files.head?.map SourceFile.name = some g.key
  /-- Targets are named after the key, below the directory. -/
  name : ∀ g ∈ groups, g.target.name = if inv.dir = "" then g.key else inv.dir ++ "/" ++ g.key
  kind : ∀ g ∈ groups, g.target.kind = kind
  /-- Each file is in the group of the shortest name that its own begins with, and in no other. -/
  owner : ∀ f ∈ inv.files, ∃ g ∈ groups, inv.Shortest g.key f.name ∧ ∀ h ∈ groups,
    f ∈ h.target.files ↔ h = g

section Groups

variable {inv : Inventory} {ctx : GroupContext} {xs : List Declared} {c : Declared × List Declared}

/-- Directives leave the files in order. -/
theorem ascending_declared (hxs : xs.map Prod.fst = inv.files) :
    Ascending (fun x : Declared => x.1.name) xs := by
  have hfiles : (xs.map Prod.fst).Pairwise fun a b => a.name < b.name := hxs ▸ inv.ascending
  rw [List.pairwise_map] at hfiles
  exact hfiles

/-- And they leave the names. -/
theorem names_declared (hxs : xs.map Prod.fst = inv.files) :
    inv.names = xs.map fun x => x.1.name := by
  rw [Inventory.names, ← hxs, List.map_map]
  rfl

/-- The keys are the leading names. -/
theorem keys_clusters (hxs : xs.map Prod.fst = inv.files) :
    ((clusters xs).map (Group.ofCluster ctx)).map Group.key = inv.names.filter inv.isLeading := by
  -- to lead among the names is to be led by none of the files
  have hleading : ∀ x : Declared, inv.isLeading x.1.name = xs.all fun y => !leads y.1.name x := by
    intro x
    rw [Inventory.isLeading, names_declared hxs, List.all_map]
    rfl
  calc ((clusters xs).map (Group.ofCluster ctx)).map Group.key
      = ((clusters xs).map Prod.fst).map fun x => x.1.name := by
        rw [List.map_map, List.map_map]
        rfl
    _ = (xs.filter fun x => inv.isLeading x.1.name).map fun x => x.1.name := by
        rw [leaders_eq_filter (ascending_declared hxs)]
        simp only [hleading]
    _ = inv.names.filter inv.isLeading := by
        rw [names_declared hxs, List.filter_map]
        rfl

/-- A group holds the files whose names begin with its key. -/
theorem files_ofCluster (hxs : xs.map Prod.fst = inv.files) (hc : c ∈ clusters xs) :
    (Group.ofCluster ctx c).target.files =
      inv.files.filter fun f => c.1.1.name.toList.isPrefixOf f.name.toList := by
  calc (Group.ofCluster ctx c).target.files
      = (c.1 :: c.2).map Prod.fst := by
        rw [Group.ofCluster, Target.files_addFiles, Target.files_empty, List.nil_append]
    _ = inv.files.filter fun f => c.1.1.name.toList.isPrefixOf f.name.toList := by
        rw [cluster_eq_filter (ascending_declared hxs) hc, ← hxs, List.filter_map]
        rfl

/-- The files of a group are those whose names its leader's begins. -/
theorem mem_files_ofCluster_iff (hxs : xs.map Prod.fst = inv.files) (hc : c ∈ clusters xs)
    {f : SourceFile} :
    f ∈ (Group.ofCluster ctx c).target.files ↔
    f ∈ inv.files ∧ c.1.1.name.toList <+: f.name.toList := by
  rw [files_ofCluster hxs hc, List.mem_filter, List.isPrefixOf_iff_prefix]

/-- The name of a cluster's leader is the shortest that the names of its files begin with. -/
theorem shortest_of_mem_cluster (hxs : xs.map Prod.fst = inv.files) (hc : c ∈ clusters xs)
    {x : Declared} (hx : x ∈ c.1 :: c.2) : inv.Shortest c.1.1.name x.1.name := by
  have hasc := ascending_declared hxs
  refine ⟨?_, prefix_of_mem_cluster hc hx, fun other hother hbegins => ?_⟩
  · rw [names_declared hxs]
    exact List.mem_map_of_mem ((cluster_sublist hc).subset List.mem_cons_self)
  · rw [names_declared hxs] at hother
    obtain ⟨y, hy, rfl⟩ := List.mem_map.1 hother
    -- a name that it begins with begins with a leader's itself, and there is only one
    obtain ⟨d, hd, hyd⟩ := exists_cluster hy
    have hleader : d.1.1.name.toList <+: y.1.name.toList := prefix_of_mem_cluster hd hyd
    obtain rfl := eq_of_prefixes hasc hc hd (prefix_of_mem_cluster hc hx) (hleader.trans hbegins)
    rw [← String.length_toList, ← String.length_toList]
    exact hleader.length_le

/-- **Clusters are grouped by leading names.** -/
theorem grouped_clusters (kind : TargetKind) (runtime : String)
    (hxs : xs.map Prod.fst = inv.files) :
    inv.Grouped kind ((clusters xs).map (Group.ofCluster ⟨inv.dir, kind, runtime⟩)) where
  keys := keys_clusters hxs
  ascending := by
    have hkeys :
        (((clusters xs).map (Group.ofCluster ⟨inv.dir, kind, runtime⟩)).map Group.key).Pairwise
        (· < ·) := by
      rw [keys_clusters hxs]
      exact List.Pairwise.filter _ (List.pairwise_map.2 inv.ascending)
    exact (List.pairwise_map.1 hkeys).imp Utf8.encode_lt_encode_iff.2
  files := List.forall_mem_map.2 fun c hc => files_ofCluster hxs hc
  files_ascending := List.forall_mem_map.2 fun c hc => by
    rw [files_ofCluster hxs hc]
    exact (inv.ascending.filter _).imp Utf8.encode_lt_encode_iff.2
  first := List.forall_mem_map.2 fun c hc => by
    rw [Group.ofCluster, Target.files_addFiles]
    rfl
  name := List.forall_mem_map.2 fun c hc => by
    rw [Group.ofCluster, Target.name_addFiles]
    rfl
  kind := List.forall_mem_map.2 fun c hc => by
    rw [Group.ofCluster, Target.kind_addFiles]
    rfl
  owner := by
    intro f hf
    obtain ⟨x, hx, rfl⟩ : ∃ x ∈ xs, x.1 = f := List.mem_map.1 (hxs ▸ hf)
    obtain ⟨c, hc, hxc⟩ := exists_cluster hx
    refine ⟨_, List.mem_map_of_mem hc, shortest_of_mem_cluster hxs hc hxc,
      List.forall_mem_map.2 fun d hd => ?_⟩
    rw [mem_files_ofCluster_iff hxs hd, and_iff_right hf]
    constructor
    · -- the file's name begins with both leaders' names
      intro hbegins
      rw [eq_of_prefixes (ascending_declared hxs) hd hc hbegins (prefix_of_mem_cluster hc hxc)]
    · intro heq
      have hkey : d.1.1.name = c.1.1.name := congrArg Group.key heq
      rw [hkey]
      exact prefix_of_mem_cluster hc hxc

end Groups

/-! ### Running the loop on a state

What gives the directives may change from call to call, as it may keep a state. It is called once
for each file. -/

section Run

variable {σ ε : Type} {onJoin : SourceFile → String → StateT σ (Except ε) Unit}
  {directivesOf : SourceFile → StateT σ (Except ε) DirectiveSet}

/-- A computation **never fails**: it gives a result in every state. -/
def NeverFails {α : Type} (x : StateT σ (Except ε) α) : Prop := ∀ s, ∃ a s', x.run s = .ok (a, s')

/-- One turn of the loop. -/
theorem exists_run_groupWith_cons (choose : KeyChoice) (ctx : GroupContext)
    (hjoin : ∀ f key, NeverFails (onJoin f key)) {f : SourceFile} (hf : NeverFails (directivesOf f))
    (rest : List SourceFile) (groups : List Group) (s : σ) :
    ∃ ds s', (groupWith choose onJoin directivesOf ctx (f :: rest) groups).run s =
      (groupWith choose onJoin directivesOf ctx rest
        (joinGroup choose ctx groups (f, ds))).run s' := by
  obtain ⟨ds, s₁, hds⟩ := hf s
  cases hchoice : choose (groups.map Group.key) f.name with
  | none =>
    -- the file opens a group, and its name is the key
    refine ⟨ds, s₁, ?_⟩
    rw [groupWith, StateT.run_bind, hds, joinGroup, hchoice]
    rfl
  | some key =>
    -- joining is reported, which may change the state as well
    obtain ⟨⟨⟩, s₂, hreport⟩ := hjoin f key s₁
    refine ⟨ds, s₂, ?_⟩
    rw [groupWith, StateT.run_bind, hds, joinGroup, hchoice]
    change (do
      onJoin f key
      groupWith choose onJoin directivesOf ctx rest (addToGroup ctx key f ds groups)).run s₁ = _
    rw [StateT.run_bind, hreport]
    rfl

/-- **A loop that is never refused any directives** ends, as if it had been told them beforehand. -/
theorem exists_run_groupWith (choose : KeyChoice) (ctx : GroupContext)
    (hjoin : ∀ f key, NeverFails (onJoin f key)) {files : List SourceFile}
    (hfiles : ∀ f ∈ files, NeverFails (directivesOf f)) (groups : List Group) (s : σ) :
    ∃ (xs : List Declared) (s' : σ), xs.map Prod.fst = files ∧
      (groupWith choose onJoin directivesOf ctx files groups).run s =
        .ok (xs.foldl (joinGroup choose ctx) groups, s') := by
  induction files generalizing groups s with
  | nil => exact ⟨[], s, rfl, rfl⟩
  | cons f rest ih =>
    obtain ⟨hf, hrest⟩ := List.forall_mem_cons.1 hfiles
    obtain ⟨ds, s₁, hturn⟩ := exists_run_groupWith_cons choose ctx hjoin hf rest groups s
    obtain ⟨xs, s₂, hxs, hrun⟩ := ih hrest (joinGroup choose ctx groups (f, ds)) s₁
    refine ⟨(f, ds) :: xs, s₂, ?_, ?_⟩
    · rw [List.map_cons, hxs]
    · rw [hturn, hrun, List.foldl_cons]

/-- **The groups of a directory are those of its leading names**, and there are such groups if
directives are never refused. -/
theorem Inventory.exists_grouped (inv : Inventory) (kind : TargetKind) (runtime : String)
    (hjoin : ∀ f key, NeverFails (onJoin f key))
    (hdirectives : ∀ f ∈ inv.files, NeverFails (directivesOf f)) (s : σ) :
    ∃ groups s', (inv.group kind runtime onJoin directivesOf).run s = .ok (groups, s') ∧
      inv.Grouped kind groups := by
  obtain ⟨xs, s', hxs, hrun⟩ :=
    exists_run_groupWith firstOpen ⟨inv.dir, kind, runtime⟩ hjoin hdirectives [] s
  rw [foldl_joinGroup_nil firstOpen_triesLast (ascending_declared hxs)] at hrun
  exact ⟨_, s', hrun, grouped_clusters kind runtime hxs⟩

end Run

/-! ### A directory of similar names -/

namespace SimilarNames

/-- A file in the directory `net`. -/
def file (name : String) : SourceFile :=
  ⟨.ofString ("net/" ++ name ++ ".c"), "net/" ++ name ++ ".c", name, "c"⟩

/-- Names that begin with `a`, some of them with each other, and one that does not. -/
def inventory : Inventory where
  dir := "net"
  files := ["a", "a-b", "a_b", "a_bc", "ab", "b"].map file
  ascending := by
    unfold Ascending
    decide_cbv

/-- Counts the files that it is asked about; the first has a directive. -/
def directivesOf (_ : SourceFile) : StateT Nat (Except BuildError) DirectiveSet := fun n =>
  .ok (if n = 0 then ⟨[.ldflags ["-lm"]], List.nodup_singleton _⟩ else .empty, n + 1)

theorem neverFails (f : SourceFile) : NeverFails (directivesOf f) := fun n => ⟨_, n + 1, rfl⟩

/-- There are two groups, `a` and `b`. -/
theorem exists_two_groups :
    ∃ groups s', (inventory.group .module "-lstdc++" (fun _ _ => pure ()) directivesOf).run 0 =
    .ok (groups, s') ∧ inventory.Grouped .module groups ∧ groups.map Group.key = ["a", "b"] := by
  obtain ⟨groups, s', hrun, hgrouped⟩ := Inventory.exists_grouped inventory .module "-lstdc++"
    (fun f key s => ⟨(), s, rfl⟩) (fun f _ => neverFails f) 0
  refine ⟨groups, s', hrun, hgrouped, ?_⟩
  rw [hgrouped.keys]
  decide_cbv

end SimilarNames

end NativeBuild
