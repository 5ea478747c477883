import NativeBuild.Proofs.Choices
import NativeBuild.Proofs.Merging

/-!
# Directives are asked for in turn, and merged

The grouping loop asks for the directives of a file and merges them into a target before it turns to
the next file, so that asking and merging alternate, and one target grows after another's turn.
Neither depends on the other:

* which group a file joins is decided by the names of the directory alone (`firstOpen_joinGroup`),
  so the loop first asks for the directives of all files in turn, and merges them then
  (`Inventory.group_eq_mapM`). This holds in every lawful monad: whatever the answers depend on, and
  whatever becomes of a refusal;
* what a group has been merged from is told by its files and their directives, in closed form
  (`Group.MergedFrom`, `Inventory.mergedFrom_merged`).

For answers that may depend on all that has been asked before, and may be refusals,
`run_mapM_inTurn` tells what is asked: each file once, in order, up to the first that is refused.
-/

namespace NativeBuild

/-! ### Which group a file joins -/

section Keys

variable {ctx : GroupContext} {groups : List Group}

theorem isProperPrefix_trans {a b c : String} (hab : isProperPrefix a b = true)
    (hbc : isProperPrefix b c = true) :
    isProperPrefix a c = true := by
  have hac : a < c := String.lt_trans (lt_of_isProperPrefix hab) (lt_of_isProperPrefix hbc)
  exact isProperPrefix_of_prefix ((isProperPrefix_iff.1 hab).1.trans (isProperPrefix_iff.1 hbc).1)
    (String.ne_of_lt hac)

/-- Keys are tried in order. -/
theorem firstOpen_append (keys more : List String) (name : String) :
    firstOpen (keys ++ more) name = (firstOpen keys name).or (firstOpen more name) :=
  List.find?_append

theorem mem_of_firstOpen {keys : List String} {key name : String}
    (h : firstOpen keys name = some key) :
    key ∈ keys ∧ isProperPrefix key name = true := by
  refine ⟨List.mem_of_find?_eq_some h, ?_⟩
  exact List.find?_some (p := fun k => isProperPrefix k name) h

/-- A file leads if its name begins with no key. -/
theorem firstOpen_eq_none_iff {keys : List String} {name : String} :
    firstOpen keys name = none ↔ ∀ key ∈ keys, isProperPrefix key name = false := by
  simp [firstOpen]

/-- **After a turn** a name joins the same group as if the name of the file were open: if the file
has joined a group, what begins with the name of the file begins with the key of that group as
well. -/
theorem firstOpen_joinGroup (x : Declared) (name : String) :
    firstOpen ((joinGroup firstOpen ctx groups x).map Group.key) name =
      firstOpen (groups.map Group.key ++ [x.1.name]) name := by
  rw [joinGroup, keys_addToGroup]
  split
  · -- the keys are the same, so what the name opens behind them must be one of them already
    rename_i hopen
    rw [firstOpen_append]
    cases hname : firstOpen (groups.map Group.key) name with
    | some key => rfl
    | none =>
      rw [firstOpen_eq_none_iff] at hname
      symm
      rw [Option.none_or, firstOpen_eq_none_iff, List.forall_mem_singleton, Bool.eq_false_iff]
      intro hbegins
      cases hkey : firstOpen (groups.map Group.key) x.1.name with
      | none =>
        -- the name of the file is a key already
        rw [hkey, Option.getD_none] at hopen
        rw [hname _ hopen] at hbegins
        exact Bool.false_ne_true hbegins
      | some key =>
        obtain ⟨hmem, hlead⟩ := mem_of_firstOpen hkey
        have hnone := hname key hmem
        rw [isProperPrefix_trans hlead hbegins] at hnone
        exact Bool.noConfusion hnone
  · -- a key is added only if the file joins nothing, and then it is its name
    rename_i hnew
    cases hkey : firstOpen (groups.map Group.key) x.1.name with
    | none => rfl
    | some key =>
      rw [hkey, Option.getD_some] at hnew
      exact absurd (mem_of_firstOpen hkey).1 hnew

end Keys

/-! ### Asking first, merging then -/

section Loop

variable {m : Type → Type} [Monad m] (onJoin : SourceFile → String → m Unit)
  (directivesOf : SourceFile → m DirectiveSet)

/-- **Asks for the directives** of a file of a directory with the given names, and reports the group
that it joins. -/
def askFor (names : List String) (file : SourceFile) : m DirectiveSet := do
  let ds ← directivesOf file
  match firstOpen names file.name with
  | some key => onJoin file key
  | none => pure ()
  pure ds

variable {onJoin directivesOf} {ctx : GroupContext}

/-- Of ascending names only those in front of a name can be joined by it. -/
theorem firstOpen_of_pairwise {seen rest : List String} {name : String}
    (h : (seen ++ name :: rest).Pairwise (· < ·)) :
    firstOpen (seen ++ name :: rest) name = firstOpen seen name := by
  have hrest : firstOpen (name :: rest) name = none := by
    rw [firstOpen_eq_none_iff]
    intro key hkey
    rw [Bool.eq_false_iff]
    intro hlead
    -- a proper prefix comes before the name, and these come after it
    have hlt := lt_of_isProperPrefix hlead
    rcases List.mem_cons.1 hkey with rfl | hkey
    · exact String.lt_irrefl _ hlt
    · have hafter := (List.pairwise_cons.1 (List.pairwise_append.1 h).2.1).1 key hkey
      exact String.lt_asymm hafter hlt
  rw [firstOpen_append, hrest, Option.or_none]

/-- **The loop asks first and merges then.** The names `seen` have come by already, and the open
groups are as good as all of them. -/
theorem groupWith_eq_mapM [LawfulMonad m] (seen : List String) {files : List SourceFile}
    {groups : List Group}
    (hseen : ∀ name, firstOpen (groups.map Group.key) name = firstOpen seen name)
    (hnames : (seen ++ files.map SourceFile.name).Pairwise (· < ·)) :
    groupWith firstOpen onJoin directivesOf ctx files groups = (do
      let dss ← files.mapM (askFor onJoin directivesOf (seen ++ files.map SourceFile.name))
      pure ((files.zip dss).foldl (joinGroup firstOpen ctx) groups)) := by
  -- on the files that are left; the names of those before, `seen`, open what the groups do
  induction files generalizing groups seen with
  | nil => simp [groupWith]
  | cons f rest ih =>
    -- rest).map SourceFile.name) f.name =
    have hkey : firstOpen (seen ++ (f :: rest).map SourceFile.name) f.name =
        firstOpen (groups.map Group.key) f.name := by
      rw [List.map_cons] at hnames ⊢
      rw [firstOpen_of_pairwise hnames, hseen]
    have hsplit : seen ++ (f :: rest).map SourceFile.name = (seen ++ [f.name]) ++
        rest.map SourceFile.name := by
      rw [List.map_cons, List.append_assoc, List.singleton_append]
    -- once the file has joined, its name is one of those that have been seen
    have hturn : ∀ ds name,
        firstOpen ((joinGroup firstOpen ctx groups (f, ds)).map Group.key) name =
          firstOpen (seen ++ [f.name]) name := by
      intro ds name
      rw [firstOpen_joinGroup, firstOpen_append, hseen, ← firstOpen_append]
    have hrest : ∀ ds, groupWith firstOpen onJoin directivesOf ctx rest
        (joinGroup firstOpen ctx groups (f, ds)) = (do
        let dss ← rest.mapM (askFor onJoin directivesOf (seen ++ (f :: rest).map SourceFile.name))
        pure ((rest.zip dss).foldl (joinGroup firstOpen ctx)
          (joinGroup firstOpen ctx groups (f, ds)))) := by
      intro ds
      rw [hsplit]
      exact ih _ (hturn ds) (hsplit ▸ hnames)
    rw [groupWith, List.mapM_cons, askFor, hkey]
    simp only [bind_assoc]
    refine congrArg (bind (directivesOf f)) (funext fun ds => ?_)
    -- both sides ask for the same directives, and then for the rest
    have hafter := hrest ds
    rw [joinGroup] at hafter
    cases hchoice : firstOpen (groups.map Group.key) f.name with
    | none =>
      rw [hchoice, Option.getD_none] at hafter
      dsimp only
      rw [hafter]
      simp [joinGroup, hchoice]
    | some key =>
      rw [hchoice, Option.getD_some] at hafter
      dsimp only
      rw [hafter]
      simp [joinGroup, hchoice]

/-- A report that says nothing leaves the question. -/
theorem askFor_silent [LawfulMonad m] (directivesOf : SourceFile → m DirectiveSet)
    (names : List String) (file : SourceFile) :
    askFor (fun _ _ => pure ()) directivesOf names file = directivesOf file := by
  rw [askFor]
  cases firstOpen names file.name <;> simp

end Loop

/-- Pairing leaves out elements at the end at most. -/
theorem sublist_map_fst_zip {α β : Type} (as : List α) (bs : List β) :
    List.Sublist ((as.zip bs).map Prod.fst) as := by
  induction as generalizing bs with
  | nil => simp
  | cons a as ih =>
    cases bs with
    | nil => simp
    | cons b bs => exact (ih bs).cons_cons a

namespace Inventory

variable {inv : Inventory} {kind : TargetKind} {runtime : String}

/-- The groups of a directory, **merged** from the directives of its files, which are given in the
order of the files. -/
def merged (inv : Inventory) (kind : TargetKind) (runtime : String) (dss : List DirectiveSet) :
    List Group :=
  (clusters (inv.files.zip dss)).map (Group.ofCluster ⟨inv.dir, kind, runtime⟩)

/-- Sources are still in order once they have their directives. -/
theorem ascending_zip (inv : Inventory) (dss : List DirectiveSet) :
    Ascending (fun x : Declared => x.1.name) (inv.files.zip dss) := by
  have hfiles : ((inv.files.zip dss).map Prod.fst).Pairwise fun a b => a.name < b.name :=
    inv.ascending.sublist (sublist_map_fst_zip inv.files dss)
  rwa [List.pairwise_map] at hfiles

/-- **The groups of a directory** are merged from what all files are asked for in turn. -/
theorem group_eq_mapM {m : Type → Type} [Monad m] [LawfulMonad m] (inv : Inventory)
    (kind : TargetKind) (runtime : String) (onJoin : SourceFile → String → m Unit)
    (directivesOf : SourceFile → m DirectiveSet) :
    inv.group kind runtime onJoin directivesOf = (do
      let dss ← inv.files.mapM (askFor onJoin directivesOf inv.names)
      pure (inv.merged kind runtime dss)) := by
  have hasc : inv.names.Pairwise (· < ·) := List.pairwise_map.2 inv.ascending
  rw [group, groupWith_eq_mapM [] (fun _ => rfl) hasc, List.nil_append]
  refine congrArg (bind _) (funext fun dss => ?_)
  rw [foldl_joinGroup_nil firstOpen_triesLast (inv.ascending_zip dss), merged]

end Inventory

/-! ### What a group has been merged from -/

instance (f : SourceFile) : Decidable f.IsExtended := inferInstanceAs (Decidable (_ ∨ _))

/-- The group has been **merged from** files with their directives: its target in closed form. -/
structure Group.MergedFrom (runtime : String) (g : Group) (ys : List Declared) : Prop where
  /-- Each file keeps the flags that it declares itself. -/
  sources : g.target.sources = ys.map fun y =>
    ⟨y.1, ⟨y.2.values .cppflags, y.2.values .cflags, y.2.values .cxxflags⟩⟩
  /-- Link flags come file by file, and the runtime behind those of a file that needs it; of equal
  ones the first. -/
  ldflags : g.target.ldflags = (ys.flatMap fun y =>
    y.2.values .ldflags ++ if y.1.IsExtended ∧ runtime ≠ "" then [runtime] else []).eraseDups
  reflibs : g.target.reflibs = (ys.flatMap fun y => y.2.values .reflibs).eraseDups
  linker : g.target.linker.IsMaxOf (ys.map fun y => y.1.linker)
  prerequisites : g.target.prerequisites = []

/-- A source brings its own flags, and the runtime if it escalates. -/
theorem broughtFlags_eq (runtime : String) (y : Declared) : Target.broughtFlags runtime y =
    y.2.values .ldflags ++ if y.1.IsExtended ∧ runtime ≠ "" then [runtime] else [] := by
  simp only [Target.broughtFlags, SourceFile.linker_eq_extended_iff]

/-- **A cluster is merged** into a target that is known in closed form. -/
theorem mergedFrom_ofCluster (ctx : GroupContext) (c : Declared × List Declared) :
    (Group.ofCluster ctx c).MergedFrom ctx.runtime (c.1 :: c.2) where
  sources := by
    rw [Group.ofCluster, Target.sources_addFiles]
    rfl
  ldflags := by
    have hflags := funext (broughtFlags_eq ctx.runtime)
    rw [Group.ofCluster, Target.ldflags_addFiles, hflags]
    exact addAllUnique_nil _
  reflibs := by
    rw [Group.ofCluster, Target.reflibs_addFiles]
    exact addAllUnique_nil _
  linker := by
    refine Linker.isMaxOf_of_iff (by simp) ?_
    rw [Group.ofCluster, Target.linker_addFiles]
    -- the empty target asks for no driver, so it is the files that do
    have hempty : (Target.empty ctx.kind (qualifiedName ctx.dir c.1.1.name)).linker ≠ .extended :=
      Linker.noConfusion
    rw [or_iff_right hempty, List.mem_map]
    exact exists_congr fun y => and_congr_right fun _ => SourceFile.linker_eq_extended_iff.symm
  prerequisites := by
    rw [Group.ofCluster, Target.prerequisites_addFiles]
    rfl

/-- **Every group has been merged** from the files whose names begin with its key. -/
theorem Inventory.mergedFrom_merged {inv : Inventory} {kind : TargetKind} {runtime : String}
    {dss : List DirectiveSet} {g : Group}
    (hg : g ∈ inv.merged kind runtime dss) : g.MergedFrom runtime
      ((inv.files.zip dss).filter fun y => g.key.toList.isPrefixOf y.1.name.toList) := by
  obtain ⟨c, hc, rfl⟩ := List.mem_map.1 hg
  have hfilter := cluster_eq_filter (inv.ascending_zip dss) hc
  have hkey : (Group.ofCluster ⟨inv.dir, kind, runtime⟩ c).key = c.1.1.name := rfl
  rw [hkey, ← hfilter]
  exact mergedFrom_ofCluster ⟨inv.dir, kind, runtime⟩ c

/-! ### Asking in turn

What answers may keep a memory of what it has been asked. So its answer is that to a file, after the
files before. -/

section Turns

variable {ε : Type} {answer : List SourceFile → SourceFile → Except ε DirectiveSet}

/-- Asks about a file, and **notes** that it has been asked about; the answer may depend on what was
noted before. -/
def inTurn (answer : List SourceFile → SourceFile → Except ε DirectiveSet) (f : SourceFile) :
    ExceptT ε (StateM (List SourceFile)) DirectiveSet :=
  ExceptT.mk fun asked => (answer asked f, asked ++ [f])

/-- The files have got their directives **in turn**, each after those in front of it. -/
def AnsweredInTurn (answer : List SourceFile → SourceFile → Except ε DirectiveSet)
    (asked : List SourceFile) (xs : List Declared) : Prop :=
  ∀ front x back, xs = front ++ x :: back → answer (asked ++ front.map Prod.fst) x.1 = .ok x.2

/-- Of no files none is left to be answered for. -/
theorem answeredInTurn_nil (asked : List SourceFile) : AnsweredInTurn answer asked [] := by
  intro front x back h
  exact absurd h (by simp)

/-- The first answer, and the others after the first file has been asked for. -/
theorem AnsweredInTurn.cons {asked : List SourceFile} {f : SourceFile} {ds : DirectiveSet}
    {xs : List Declared} (hf : answer asked f = .ok ds)
    (h : AnsweredInTurn answer (asked ++ [f]) xs) :
    AnsweredInTurn answer asked ((f, ds) :: xs) := by
  intro front x back heq
  cases front with
  | nil =>
    obtain ⟨rfl, -⟩ := List.cons.inj heq
    simpa using hf
  | cons y front =>
    obtain ⟨rfl, hrest⟩ := List.cons.inj heq
    have hx := h front x back hrest
    rwa [List.append_assoc] at hx

theorem run_mapM_inTurn_cons (f : SourceFile) (rest asked : List SourceFile) :
    ((f :: rest).mapM (inTurn answer)).run.run asked = match answer asked f with
      | .error e => (.error e, asked ++ [f])
      | .ok ds => match (rest.mapM (inTurn answer)).run.run (asked ++ [f]) with
        | (.error e, asked') => (.error e, asked')
        | (.ok dss, asked') => (.ok (ds :: dss), asked') := by
  rw [List.mapM_cons, ExceptT.run_bind, StateT.run_bind]
  have hask : (inTurn answer f).run.run asked = (answer asked f, asked ++ [f]) := rfl
  rw [hask]
  -- a refusal ends the run, with the file among those that were asked for
  cases hf : answer asked f with
  | error e => rfl
  | ok ds =>
    show ((rest.mapM (inTurn answer) >>= fun dss => pure (ds :: dss)).run).run (asked ++ [f]) = _
    rw [ExceptT.run_bind, StateT.run_bind]
    cases hrest : (rest.mapM (inTurn answer)).run.run (asked ++ [f]) with
    | mk result asked' =>
      cases result <;> rfl

/-- **Files are asked about in turn**, each once, up to the first whose answer is a refusal. -/
theorem run_mapM_inTurn (answer : List SourceFile → SourceFile → Except ε DirectiveSet)
    (files asked : List SourceFile) :
    (∃ dss, dss.length = files.length ∧ AnsweredInTurn answer asked (files.zip dss) ∧
        (files.mapM (inTurn answer)).run.run asked = (.ok dss, asked ++ files)) ∨
      ∃ front f back dss e, files = front ++ f :: back ∧ dss.length = front.length ∧
        AnsweredInTurn answer asked (front.zip dss) ∧ answer (asked ++ front) f = .error e ∧
        (files.mapM (inTurn answer)).run.run asked = (.error e, asked ++ front ++ [f]) := by
  -- on the files; `asked` is what has been asked for before them
  induction files generalizing asked with
  | nil =>
    refine .inl ⟨[], rfl, answeredInTurn_nil asked, ?_⟩
    rw [List.append_nil, List.mapM_nil]
    rfl
  | cons f rest ih =>
    cases hf : answer asked f with
    | error e =>
      refine .inr ⟨[], f, rest, [], e, rfl, rfl, answeredInTurn_nil asked, ?_, ?_⟩
      · rwa [List.append_nil]
      · rw [run_mapM_inTurn_cons, hf, List.append_nil]
    | ok ds =>
      have hasked : ∀ more, asked ++ [f] ++ more = asked ++ f :: more := fun more => by
        rw [List.append_assoc, List.singleton_append]
      -- the refused file is the first one, one of the others, or none
      rcases ih (asked ++ [f]) with ⟨dss, hlen, hturn, hrun⟩ |
        ⟨front, g, back, dss, e, rfl, hlen, hturn, hg, hrun⟩
      · refine .inl ⟨ds :: dss, by rw [List.length_cons, List.length_cons, hlen], hturn.cons hf, ?_⟩
        rw [run_mapM_inTurn_cons, hf, hrun, hasked]
      · refine .inr ⟨f :: front, g, back, ds :: dss, e, rfl,
          by rw [List.length_cons, List.length_cons, hlen], hturn.cons hf, ?_, ?_⟩
        · rwa [← hasked]
        · rw [run_mapM_inTurn_cons, hf, hrun, hasked]

end Turns

/-! ### The groups of a directory -/

/-- **The directives of all files are asked for in turn, and every group is merged from those of its
files.** Whatever answers depend on, grouping asks for the directives of each file once, in
ascending order of names, up to the first that is refused, which is the result then; of what has
been answered each group gets the target in closed form. -/
theorem Inventory.group_asks_and_merges (inv : Inventory) (kind : TargetKind) (runtime : String) :
    (∀ (m : Type → Type) [Monad m] [LawfulMonad m] (onJoin : SourceFile → String → m Unit)
        (directivesOf : SourceFile → m DirectiveSet),
      inv.group kind runtime onJoin directivesOf = (do
        let dss ← inv.files.mapM (askFor onJoin directivesOf inv.names)
        pure (inv.merged kind runtime dss))) ∧
    (∀ dss, ∀ g ∈ inv.merged kind runtime dss, g.MergedFrom runtime
      ((inv.files.zip dss).filter fun y => g.key.toList.isPrefixOf y.1.name.toList)) ∧
    ∀ (ε : Type) (answer : List SourceFile → SourceFile → Except ε DirectiveSet),
      (∃ dss, dss.length = inv.files.length ∧ AnsweredInTurn answer [] (inv.files.zip dss) ∧
        (inv.group kind runtime (fun _ _ => pure ()) (inTurn answer)).run.run [] =
          (.ok (inv.merged kind runtime dss), inv.files)) ∨
      ∃ front f back dss e, inv.files = front ++ f :: back ∧ dss.length = front.length ∧
        AnsweredInTurn answer [] (front.zip dss) ∧ answer front f = .error e ∧
        (inv.group kind runtime (fun _ _ => pure ()) (inTurn answer)).run.run [] =
          (.error e, front ++ [f]) := by
  refine ⟨fun m _ _ onJoin directivesOf => inv.group_eq_mapM kind runtime onJoin directivesOf,
    fun dss g hg => mergedFrom_merged hg, fun ε answer => ?_⟩
  -- without reports grouping asks, and then merges
  have hgroup : (inv.group kind runtime (fun _ _ => pure ()) (inTurn answer)).run.run [] =
      match (inv.files.mapM (inTurn answer)).run.run [] with
      | (.error e, asked) => (.error e, asked)
      | (.ok dss, asked) => (.ok (inv.merged kind runtime dss), asked) := by
    have hask : askFor (fun _ _ => pure ()) (inTurn answer) inv.names = inTurn answer :=
      funext (askFor_silent (inTurn answer) inv.names)
    rw [inv.group_eq_mapM kind runtime, hask, ExceptT.run_bind, StateT.run_bind]
    cases (inv.files.mapM (inTurn answer)).run.run [] with
    | mk result asked => cases result <;> rfl
  rcases run_mapM_inTurn answer inv.files [] with
    ⟨dss, hlen, hturn, hrun⟩ | ⟨front, f, back, dss, e, hfiles, hlen, hturn, hf, hrun⟩
  · exact .inl ⟨dss, hlen, hturn, by rw [hgroup, hrun, List.nil_append]⟩
  · exact .inr ⟨front, f, back, dss, e, hfiles, hlen, hturn, hf,
      by rw [hgroup, hrun, List.nil_append]⟩

namespace SimilarNames

/-- Every file has a link flag, its own name among them and `-lm`. -/
def answer (_ : List SourceFile) (f : SourceFile) : Except BuildError DirectiveSet :=
  .ok ⟨[.ldflags ["-lm", "-l" ++ f.name]], List.nodup_singleton _⟩

/-- What `a` begins is merged into one target; `-lm` stands in it once. -/
theorem merges_two_groups : ∃ dss groups,
    (inventory.group .module "-lstdc++" (fun _ _ => pure ()) (inTurn answer)).run.run [] =
      (.ok groups, inventory.files) ∧
    groups.map (fun g => (g.key, g.target.ldflags)) =
      [("a", ["-lm", "-la", "-la-b", "-la_b", "-la_bc", "-lab"]), ("b", ["-lm", "-lb"])] ∧
    ∀ g ∈ groups, g.MergedFrom "-lstdc++"
      ((inventory.files.zip dss).filter fun y => g.key.toList.isPrefixOf y.1.name.toList) := by
  obtain ⟨-, hmerged, hrun⟩ := Inventory.group_asks_and_merges inventory .module "-lstdc++"
  have hflags :
      ((inventory.group .module "-lstdc++" (fun _ _ => pure ()) (inTurn answer)).run.run
      []).1.toOption.map (List.map fun g => (g.key, g.target.ldflags)) =
        some [("a", ["-lm", "-la", "-la-b", "-la_b", "-la_bc", "-lab"]),
          ("b", ["-lm", "-lb"])] := by
    decide +kernel
  rcases hrun BuildError answer with ⟨dss, -, -, hdone⟩ | ⟨_, _, _, _, _, -, -, -, -, hrefused⟩
  · rw [hdone] at hflags
    exact ⟨dss, _, hdone, Option.some.inj hflags, hmerged dss⟩
  · rw [hrefused] at hflags
    exact nomatch hflags

end SimilarNames

end NativeBuild
