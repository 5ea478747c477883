import NativeBuild.Proofs.Success
import NativeBuild.Target.Grouping

/-!
# Groups are clusters of neighbours

The grouping loop lets a file join any open group whose key is a proper prefix of its name. Because
the names ascend, only the group that was opened last can be joined: names with a common prefix
stand next to each other (`isProperPrefix_of_between`), so once a name without the prefix has come
by, none with it comes any more. Hence the groups of a directory are found without a search.
`clusters` cuts the files into a leader and the files right after it that have the leader's name as
a proper prefix, then goes on with the rest.

* `foldl_joinGroup` is the loop invariant: what is open before the last group stays as it is;
* `result_groupWith_eq_ok_iff`: a run of the loop succeeds exactly when the directives of each file
  can be had, and what it gives;
* `Inventory.group_eq_ok_iff`: the groups of an inventory are its clusters, each merged into one
  target.
-/

namespace NativeBuild

/-! ### Prefixes and the order of names -/

/-- A proper prefix is a beginning that is not the whole. -/
theorem isProperPrefix_iff {k s : String} :
    isProperPrefix k s = true ↔ k.toList <+: s.toList ∧ k ≠ s := by
  simp [isProperPrefix, List.isPrefixOf_iff_prefix]

/-- A prefix of a text is a prefix of everything between the two. -/
theorem prefix_of_between {k x y : List Char} (hkx : k < x) (hxy : x < y) (h : k <+: y) :
    k <+: x := by
  -- on the beginning, with one character taken off all three
  induction k generalizing x y with
  | nil => exact List.nil_prefix
  | cons c k ih =>
    obtain ⟨s, rfl⟩ := h
    cases x with
    | nil => exact absurd hkx (List.not_lt_nil _)
    | cons d x =>
      rw [List.cons_append] at hxy
      rw [List.cons_lt_cons_iff] at hkx hxy
      -- the first character cannot go up and come down again
      rcases hkx with hcd | ⟨rfl, hkx⟩
      · rcases hxy with hdc | ⟨rfl, -⟩
        · exact absurd hdc (Char.lt_asymm hcd)
        · exact absurd hcd (Char.lt_irrefl _)
      · rcases hxy with hcc | ⟨-, hxy⟩
        · exact absurd hcc (Char.lt_irrefl _)
        · exact List.cons_prefix_cons.2 ⟨rfl, ih hkx hxy (List.prefix_append k s)⟩

/-- **Names with a common prefix are neighbours.** -/
theorem isProperPrefix_of_between {k x y : String} (hkx : k < x) (hxy : x < y)
    (h : isProperPrefix k y = true) : isProperPrefix k x = true := by
  rw [isProperPrefix_iff] at h ⊢
  exact ⟨prefix_of_between hkx hxy h.1, String.ne_of_lt hkx⟩

/-! ### Clusters -/

/-- A file with its directives. -/
abbrev Declared : Type := SourceFile × DirectiveSet

/-- Does a name lead a file, so that the file joins the group of that name? -/
def leads (key : String) (x : Declared) : Bool := isProperPrefix key x.1.name

/-- **Clusters**: a leader and the files right after it that it leads. -/
def clusters : List Declared → List (Declared × List Declared)
  | [] => []
  | x :: rest => (x, rest.takeWhile (leads x.1.name)) :: clusters (rest.dropWhile (leads x.1.name))
termination_by xs => xs.length
decreasing_by exact Nat.lt_succ_of_le (List.dropWhile_suffix _).length_le

/-- Clusters cut the list into pieces, so they put together again give the list. -/
theorem flatMap_clusters (xs : List Declared) :
    (clusters xs).flatMap (fun c => c.1 :: c.2) = xs := by
  fun_induction clusters xs with
  | case1 => rfl
  | case2 x rest ih =>
    rw [List.flatMap_cons, ih, List.cons_append, List.takeWhile_append_dropWhile]

/-- Each cluster is led by one of the elements, and these keep their order. -/
theorem leaders_sublist (xs : List Declared) : List.Sublist ((clusters xs).map Prod.fst) xs := by
  fun_induction clusters xs with
  | case1 => exact List.Sublist.refl _
  | case2 x rest ih =>
    rw [List.map_cons]
    exact (ih.trans (List.dropWhile_sublist _)).cons_cons x

/-- Takes files with their directives into a target, in turn. -/
def Target.addFiles (runtime : String) (t : Target) (xs : List Declared) : Target :=
  xs.foldl (fun t x => t.addFile x.1 x.2 runtime) t

/-- The group that a cluster is merged into. -/
def Group.ofCluster (ctx : GroupContext) (c : Declared × List Declared) : Group :=
  ⟨c.1.1.name, (Target.empty ctx.kind (qualifiedName ctx.dir c.1.1.name)).addFiles ctx.runtime
    (c.1 :: c.2)⟩

/-! ### The grouping loop -/

/-- A rule that **tries the last key**: when no other key is a proper prefix of the name, it takes
the last one if that is. -/
structure KeyChoice.TriesLast (choose : KeyChoice) : Prop where
  none_open : ∀ name, choose [] name = none
  last : ∀ keys key name, (∀ k ∈ keys, isProperPrefix k name = false) →
    choose (keys ++ [key]) name = if isProperPrefix key name then some key else none

/-- Taking the first group that is open tries the last group if no other is open. -/
theorem firstOpen_triesLast : KeyChoice.TriesLast firstOpen where
  none_open _ := rfl
  last keys key name h := by
    have hnone : keys.find? (fun k => isProperPrefix k name) = none := by
      rw [List.find?_eq_none]
      intro k hk
      simp [h k hk]
    rw [firstOpen, List.find?_append, hnone, Option.none_or]
    cases hp : isProperPrefix key name <;> simp [hp]

section Loop

variable {choose : KeyChoice} {ctx : GroupContext}

/-- One turn of the loop, for a file whose directives are known. -/
def joinGroup (choose : KeyChoice) (ctx : GroupContext) (groups : List Group) (x : Declared) :
    List Group :=
  addToGroup ctx ((choose (groups.map Group.key) x.1.name).getD x.1.name) x.1 x.2 groups

/-- Groups with other keys are passed by. -/
theorem addToGroup_append {key : String} {file : SourceFile} {ds : DirectiveSet}
    {done rest : List Group} (h : ∀ d ∈ done, d.key ≠ key) :
    addToGroup ctx key file ds (done ++ rest) = done ++ addToGroup ctx key file ds rest := by
  induction done with
  | nil => rfl
  | cons d done ih =>
    rw [List.cons_append, addToGroup, if_neg (h d List.mem_cons_self),
      ih fun e he => h e (List.mem_cons_of_mem d he)]
    rfl

variable {done : List Group} {g : Group} {x : Declared}

/-- When the groups before the last do not lead a file, the last one decides. -/
theorem choose_keys (hch : choose.TriesLast) (hclosed : ∀ d ∈ done, leads d.key x = false) :
    choose ((done ++ [g]).map Group.key) x.1.name = if leads g.key x then some g.key else none := by
  rw [List.map_append, List.map_singleton]
  refine hch.last _ _ _ fun k hk => ?_
  obtain ⟨d, hd, rfl⟩ := List.mem_map.1 hk
  exact hclosed d hd

theorem joinGroup_of_leads (hch : choose.TriesLast) (hdone : ∀ d ∈ done, d.key < g.key)
    (hclosed : ∀ d ∈ done, leads d.key x = false) (hx : leads g.key x = true) :
    joinGroup choose ctx (done ++ [g]) x =
      done ++ [⟨g.key, g.target.addFile x.1 x.2 ctx.runtime⟩] := by
  rw [joinGroup, choose_keys hch hclosed, if_pos hx, Option.getD_some]
  -- the keys before the last are smaller, so the file passes by their groups
  rw [addToGroup_append fun d hd => String.ne_of_lt (hdone d hd), addToGroup, if_pos rfl]

theorem joinGroup_of_not_leads (hch : choose.TriesLast)
    (hdone : ∀ d ∈ done ++ [g], d.key < x.1.name) (hclosed : ∀ d ∈ done, leads d.key x = false)
    (hx : leads g.key x = false) :
    joinGroup choose ctx (done ++ [g]) x = (done ++ [g]) ++ [Group.ofCluster ctx (x, [])] := by
  have hchoice : choose ((done ++ [g]).map Group.key) x.1.name = none := by
    rw [choose_keys hch hclosed, hx]
    rfl
  -- the file's own name is the key now, and it is behind all that are open
  rw [joinGroup, hchoice, Option.getD_none, ← List.append_nil (done ++ [g]),
    addToGroup_append fun d hd => String.ne_of_lt (hdone d hd)]
  simp [addToGroup, Group.ofCluster, Target.addFiles]

/-- **The loop invariant.** Of the open groups only the last one takes files, and it takes those
right in front that it leads; the rest is cut into clusters. -/
theorem foldl_joinGroup (hch : choose.TriesLast) {xs : List Declared}
    (hxs : xs.Pairwise fun a b => a.1.name < b.1.name) (hg : ∀ x ∈ xs, g.key < x.1.name)
    (hdone : ∀ d ∈ done, d.key < g.key) (hclosed : ∀ d ∈ done, ∀ x ∈ xs, leads d.key x = false) :
    xs.foldl (joinGroup choose ctx) (done ++ [g]) =
      done ++ ⟨g.key, g.target.addFiles ctx.runtime (xs.takeWhile (leads g.key))⟩ ::
        (clusters (xs.dropWhile (leads g.key))).map (Group.ofCluster ctx) := by
  induction xs generalizing done g with
  | nil => simp [clusters, Target.addFiles]
  | cons x rest ih =>
    obtain ⟨hx, hrest⟩ := List.pairwise_cons.1 hxs
    have hgx : g.key < x.1.name := hg x List.mem_cons_self
    have hclosedx : ∀ d ∈ done, leads d.key x = false :=
      fun d hd => hclosed d hd x List.mem_cons_self
    have hclosed' : ∀ d ∈ done, ∀ y ∈ rest, leads d.key y = false :=
      fun d hd y hy => hclosed d hd y (List.mem_cons_of_mem x hy)
    rw [List.foldl_cons]
    cases hlead : leads g.key x with
    | true =>
      -- `x` goes to the last group, which stays the last
      rw [joinGroup_of_leads hch hdone hclosedx hlead,
        ih (g := ⟨g.key, g.target.addFile x.1 x.2 ctx.runtime⟩) hrest
          (fun y hy => hg y (List.mem_cons_of_mem x hy)) hdone hclosed',
        List.takeWhile_cons_of_pos hlead, List.dropWhile_cons_of_pos hlead]
      rfl
    | false =>
      -- the last group is closed by `x`: what has its key as a prefix would stand before `x`
      have hshut : ∀ y ∈ rest, leads g.key y = false := by
        intro y hy
        refine Bool.eq_false_iff.2 fun hne => ?_
        have hbetween : leads g.key x = true := isProperPrefix_of_between hgx (hx y hy) hne
        rw [hlead] at hbetween
        exact Bool.false_ne_true hbetween
      have hbefore : ∀ d ∈ done ++ [g], d.key < x.1.name :=
        List.forall_mem_append.2 ⟨fun d hd => String.lt_trans (hdone d hd) hgx,
          List.forall_mem_singleton.2 hgx⟩
      have hclosed'' : ∀ d ∈ done ++ [g], ∀ y ∈ rest, leads d.key y = false :=
        List.forall_mem_append.2 ⟨hclosed', List.forall_mem_singleton.2 hshut⟩
      -- so `x` opens a group, which is the last one from now on
      rw [joinGroup_of_not_leads hch hbefore hclosedx hlead, ih hrest hx hbefore hclosed'',
        List.takeWhile_cons_of_neg (by simp [hlead]), List.dropWhile_cons_of_neg (by simp [hlead]),
        clusters]
      simp [Group.ofCluster, Target.addFiles]

/-- **The groups of ascending files are their clusters.** -/
theorem foldl_joinGroup_nil (hch : choose.TriesLast) {xs : List Declared}
    (hxs : xs.Pairwise fun a b => a.1.name < b.1.name) :
    xs.foldl (joinGroup choose ctx) [] = (clusters xs).map (Group.ofCluster ctx) := by
  cases xs with
  | nil => simp [clusters]
  | cons x rest =>
    obtain ⟨hx, hrest⟩ := List.pairwise_cons.1 hxs
    -- the first file opens the first group
    have hopen : joinGroup choose ctx [] x = [] ++ [Group.ofCluster ctx (x, [])] := by
      rw [joinGroup, List.map_nil, hch.none_open]
      rfl
    rw [List.foldl_cons, hopen, foldl_joinGroup hch hrest hx (by simp) (by simp), clusters]
    rfl

end Loop

/-! ### Running the loop -/

section Run

variable {ν ε : Type} {choose : KeyChoice} {ctx : GroupContext}
  {onJoin : SourceFile → String → Traced ν ε Unit}
  {directivesOf : SourceFile → Traced ν ε DirectiveSet}

/-- The directives that were asked for, or none if there was no answer. -/
def answer (x : Traced ν ε DirectiveSet) : DirectiveSet :=
  match x.result with
  | .ok ds => ds
  | .error _ => .empty

/-- Files with the directives that asking for them gives. -/
def declared (directivesOf : SourceFile → Traced ν ε DirectiveSet) (files : List SourceFile) :
    List Declared :=
  files.map fun f => (f, answer (directivesOf f))

/-- Are the directives of all files to be had? -/
def Answered (directivesOf : SourceFile → Traced ν ε DirectiveSet)
    (files : List SourceFile) : Prop :=
  ∀ f ∈ files, ∃ ds, (directivesOf f).result = .ok ds

/-- Files with their directives are these files. -/
theorem map_fst_declared (files : List SourceFile) :
    (declared directivesOf files).map Prod.fst = files := by
  rw [declared, List.map_map]
  exact List.map_id _

/-- The directives of the first file are those that are read for it. -/
theorem declared_cons {f : SourceFile} {rest : List SourceFile} {ds : DirectiveSet}
    (h : (directivesOf f).result = .ok ds) :
    declared directivesOf (f :: rest) = (f, ds) :: declared directivesOf rest := by
  rw [declared, List.map_cons, answer, h]
  rfl

/-- Grouping takes the first file into a group, and goes on with the rest. -/
theorem result_groupWith_cons (hjoin : ∀ f key, (onJoin f key).result = .ok ()) {f : SourceFile}
    {rest : List SourceFile} {groups gs : List Group} :
    (groupWith choose onJoin directivesOf ctx (f :: rest) groups).result = .ok gs ↔
      ∃ ds, (directivesOf f).result = .ok ds ∧
        (groupWith choose onJoin directivesOf ctx rest
          (joinGroup choose ctx groups (f, ds))).result =
          .ok gs := by
  rw [groupWith, Traced.result_bind_eq_ok_iff]
  refine exists_congr fun ds => and_congr_right fun _ => ?_
  -- joining is noted and opening is not, but notes do not count
  unfold joinGroup
  cases choose (groups.map Group.key) f.name with
  | none => rfl
  | some key =>
    rw [Option.getD_some]
    exact Traced.result_bind_unit_eq_ok_iff.trans (and_iff_right (hjoin f key))

/-- **When the loop succeeds, and with what.** -/
theorem result_groupWith_eq_ok_iff (hjoin : ∀ f key, (onJoin f key).result = .ok ())
    {files : List SourceFile} {groups gs : List Group} :
    (groupWith choose onJoin directivesOf ctx files groups).result = .ok gs ↔
      Answered directivesOf files ∧
        gs = (declared directivesOf files).foldl (joinGroup choose ctx) groups := by
  -- on the files, for any groups that there are already
  induction files generalizing groups with
  | nil =>
    rw [groupWith, Traced.result_pure, Except.ok.injEq, eq_comm]
    exact (and_iff_right fun f hf => absurd hf List.not_mem_nil).symm
  | cons f rest ih =>
    rw [result_groupWith_cons hjoin, Answered, List.forall_mem_cons]
    constructor
    · rintro ⟨ds, hds, hgs⟩
      obtain ⟨hrest, rfl⟩ := ih.1 hgs
      refine ⟨⟨⟨ds, hds⟩, hrest⟩, ?_⟩
      rw [declared_cons hds, List.foldl_cons]
    · rintro ⟨⟨⟨ds, hds⟩, hrest⟩, rfl⟩
      refine ⟨ds, hds, ih.2 ⟨hrest, ?_⟩⟩
      rw [declared_cons hds, List.foldl_cons]

/-- **The groups of an inventory** are its clusters. -/
theorem Inventory.group_eq_ok_iff (hjoin : ∀ f key, (onJoin f key).result = .ok ())
    {inv : Inventory} {kind : TargetKind} {runtime : String} {gs : List Group} :
    (inv.group kind runtime onJoin directivesOf).result = .ok gs ↔
      Answered directivesOf inv.files ∧
        gs = (clusters (declared directivesOf inv.files)).map
          (Group.ofCluster ⟨inv.dir, kind, runtime⟩) := by
  rw [Inventory.group, result_groupWith_eq_ok_iff hjoin, foldl_joinGroup_nil firstOpen_triesLast]
  exact List.pairwise_map.2 inv.ascending

end Run

end NativeBuild
