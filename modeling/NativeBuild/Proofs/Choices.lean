import NativeBuild.Proofs.Leading
import Mathlib.Data.List.MinMax

/-!
# Which open key is tried does not matter

A file joins the first open key that is a proper prefix of its name. One might ask for the longest
such key, or try only the key that was opened last, which needs no search. All three come to the
same: when a file comes by, no open key but the last is a proper prefix of its name
(`OpenFor.joinable_cases`).

This is an invariant of the loop, `OpenFor`. A key is opened by a name that joins no key, and from
then on the keys before it are out of reach: what has one of them as a prefix stands before the new
key, and has come by already (`OpenFor.snoc`). So whatever a rule does with several keys that a name
can join, it is never put to the test (`groupWith_congr`), in any monad and also when directives are
refused.
-/

namespace NativeBuild

/-! ### Rules of choice -/

/-- The open keys that a name **can join**. -/
def joinable (keys : List String) (name : String) : List String :=
  keys.filter fun k => isProperPrefix k name

/-- The longest open key that is a proper prefix. -/
def longestOpen : KeyChoice := fun keys name => (joinable keys name).argmax String.length

/-- The key that was opened last, if it is a proper prefix. -/
def lastOpen : KeyChoice := fun keys name => keys.getLast?.filter fun k => isProperPrefix k name

/-- Of one more key only that one has to be looked at, if none of the others can be joined. -/
theorem joinable_append_singleton {keys : List String} {key name : String}
    (h : ∀ k ∈ keys, isProperPrefix k name = false) :
    joinable (keys ++ [key]) name = if isProperPrefix key name then [key] else [] := by
  have hnone : keys.filter (fun k => isProperPrefix k name) = [] := by
    rw [List.filter_eq_nil_iff]
    intro k hk
    simp [h k hk]
  rw [joinable, List.filter_append, hnone, List.nil_append, List.filter_cons, List.filter_nil]

/-- The longest key is one that can be joined, since only such keys are compared. -/
theorem longestOpen_triesLast : KeyChoice.TriesLast longestOpen where
  none_open _ := rfl
  last keys key name h := by
    rw [longestOpen, joinable_append_singleton h]
    split <;> rfl

/-- And the last one is, by its definition. -/
theorem lastOpen_triesLast : KeyChoice.TriesLast lastOpen where
  none_open _ := rfl
  last keys key name _ := by
    rw [lastOpen, List.getLast?_concat, Option.filter_some]

/-! ### Open keys -/

/-- The keys are **open for the names** to come: these are behind all of them, and can join the last
one at most. -/
structure OpenFor (keys names : List String) : Prop where
  lt : ∀ k ∈ keys, ∀ n ∈ names, k < n
  closed : ∀ k ∈ keys.dropLast, ∀ n ∈ names, isProperPrefix k n = false

section Keys

variable {keys names : List String} {name : String}

/-- Without groups there is nothing to join. -/
theorem OpenFor.nil (names : List String) : OpenFor [] names := ⟨by simp, by simp⟩

/-- A name that joins changes nothing. -/
theorem OpenFor.tail (h : OpenFor keys (name :: names)) : OpenFor keys names where
  lt k hk n hn := h.lt k hk n (List.mem_cons_of_mem name hn)
  closed k hk n hn := h.closed k hk n (List.mem_cons_of_mem name hn)

/-- **A name that cannot join any key opens one**, and closes those before it. -/
theorem OpenFor.snoc (h : OpenFor keys (name :: names)) (hnames : ∀ n ∈ names, name < n)
    (hnone : ∀ k ∈ keys, isProperPrefix k name = false) : OpenFor (keys ++ [name]) names where
  lt := List.forall_mem_append.2 ⟨h.tail.lt, List.forall_mem_singleton.2 hnames⟩
  closed := by
    rw [List.dropLast_concat]
    intro k hk n hn
    -- `name` stands between the key and `n`, so it would have the key as a prefix too
    exact isProperPrefix_eq_false_of_lt (h.lt k hk name List.mem_cons_self) (hnames n hn)
      (hnone k hk)

/-- Of the open keys none but the last can be joined. -/
theorem OpenFor.exists_last (h : OpenFor keys (name :: names)) (hne : keys ≠ []) :
    ∃ front key, keys = front ++ [key] ∧ ∀ k ∈ front, isProperPrefix k name = false := by
  refine ⟨keys.dropLast, keys.getLast hne, (List.dropLast_append_getLast hne).symm, fun k hk => ?_⟩
  exact h.closed k hk name List.mem_cons_self

/-- **One open key can be joined at most, and it is the last.** -/
theorem OpenFor.joinable_cases (h : OpenFor keys (name :: names)) :
    joinable keys name = [] ∨ ∃ key, keys.getLast? = some key ∧ joinable keys name = [key] := by
  by_cases hne : keys = []
  · left
    rw [hne]
    rfl
  · obtain ⟨front, key, rfl, hfront⟩ := h.exists_last hne
    rw [joinable_append_singleton hfront, List.getLast?_concat]
    cases isProperPrefix key name with
    | true => exact Or.inr ⟨key, rfl, rfl⟩
    | false => exact Or.inl rfl

/-- **All rules that try the last key choose the same**: the only key that can be joined. -/
theorem OpenFor.choose_eq {choose : KeyChoice} (hch : choose.TriesLast)
    (h : OpenFor keys (name :: names)) :
    choose keys name = (joinable keys name).head? := by
  by_cases hne : keys = []
  · rw [hne]
    exact hch.none_open name
  · -- the rule looks at the last key, and no other can be joined
    obtain ⟨front, key, rfl, hfront⟩ := h.exists_last hne
    rw [hch.last _ _ _ hfront, joinable_append_singleton hfront]
    split <;> rfl

end Keys

/-! ### One turn of the loop -/

section Turn

variable {choose : KeyChoice} {ctx : GroupContext} {groups : List Group} {names : List String}

/-- A file adds a key if it is not open. -/
theorem keys_addToGroup (key : String) (file : SourceFile) (ds : DirectiveSet)
    (groups : List Group) :
    (addToGroup ctx key file ds groups).map Group.key =
      if key ∈ groups.map Group.key then groups.map Group.key
      else groups.map Group.key ++ [key] := by
  -- on the groups, as far as the one that has the key
  induction groups with
  | nil => rfl
  | cons g r ih =>
    rw [addToGroup]
    by_cases hg : g.key = key
    · rw [if_pos hg, if_pos (by simp [hg])]
      rfl
    · -- this group is passed by, so it does not matter for the key
      rw [if_neg hg, List.map_cons, ih, List.map_cons]
      have hmem : key ∈ g.key :: r.map Group.key ↔ key ∈ r.map Group.key := by
        rw [List.mem_cons, or_iff_right (Ne.symm hg)]
      simp only [hmem]
      split <;> rfl

/-- **The invariant is kept**: whatever a file joins or opens, the keys are open for the names after
it. -/
theorem OpenFor.joinGroup (hch : choose.TriesLast) {x : Declared}
    (h : OpenFor (groups.map Group.key) (x.1.name :: names)) (hnames : ∀ n ∈ names, x.1.name < n) :
    OpenFor ((NativeBuild.joinGroup choose ctx groups x).map Group.key) names := by
  rw [NativeBuild.joinGroup, keys_addToGroup, h.choose_eq hch]
  rcases h.joinable_cases with hnone | ⟨key, hlast, honly⟩
  · -- the file opens a group, whose key is its own name
    rw [hnone, List.head?_nil, Option.getD_none]
    have hclosed : ∀ k ∈ groups.map Group.key, isProperPrefix k x.1.name = false := by
      intro k hk
      exact Bool.eq_false_iff.2 (List.filter_eq_nil_iff.1 hnone k hk)
    have hnew : x.1.name ∉ groups.map Group.key := by
      intro hmem
      exact String.lt_irrefl _ (h.lt _ hmem _ List.mem_cons_self)
    rw [if_neg hnew]
    exact h.snoc hnames hclosed
  · -- the file joins the last group, and no key is added
    rw [honly, List.head?_cons, Option.getD_some, if_pos (List.mem_of_getLast? hlast)]
    exact h.tail

/-- The invariant holds after any number of files. -/
theorem OpenFor.foldl_joinGroup (hch : choose.TriesLast) {xs : List Declared}
    (h : OpenFor (groups.map Group.key) (xs.map (fun x => x.1.name) ++ names))
    (hnames : (xs.map (fun x => x.1.name) ++ names).Pairwise (· < ·)) :
    OpenFor ((xs.foldl (NativeBuild.joinGroup choose ctx) groups).map Group.key) names := by
  -- what is open changes with each file, and the files to come get fewer
  induction xs generalizing groups with
  | nil => exact h
  | cons x rest ih =>
    obtain ⟨hx, hrest⟩ := List.pairwise_cons.1 hnames
    rw [List.foldl_cons]
    exact ih (h.joinGroup hch hx) hrest

end Turn

/-! ### The whole loop -/

section Run

variable {m : Type → Type} [Monad m] {choose choose' : KeyChoice} {ctx : GroupContext}
  {onJoin : SourceFile → String → m Unit} {directivesOf : SourceFile → m DirectiveSet}

/-- **Rules that try the last key give the same computation.** -/
theorem groupWith_congr (hch : choose.TriesLast) (hch' : choose'.TriesLast)
    {files : List SourceFile} {groups : List Group}
    (h : OpenFor (groups.map Group.key) (files.map SourceFile.name))
    (hfiles : Ascending SourceFile.name files) :
    groupWith choose onJoin directivesOf ctx files groups =
      groupWith choose' onJoin directivesOf ctx files groups := by
  -- on the files, with the groups open for what is left of them
  induction files generalizing groups with
  | nil => rfl
  | cons f rest ih =>
    obtain ⟨hf, hrest⟩ := ascending_cons.1 hfiles
    have hchoice :
        choose' (groups.map Group.key) f.name = choose (groups.map Group.key) f.name := by
      calc choose' (groups.map Group.key) f.name
          = (joinable (groups.map Group.key) f.name).head? := h.choose_eq hch'
        _ = choose (groups.map Group.key) f.name := (h.choose_eq hch).symm
    have hturn :
        ∀ ds, OpenFor ((joinGroup choose ctx groups (f, ds)).map Group.key)
          (rest.map SourceFile.name) := by
      intro ds
      apply h.joinGroup hch
      exact List.forall_mem_map.2 hf
    rw [groupWith, groupWith, hchoice]
    refine congrArg (bind (directivesOf f)) (funext fun ds => ?_)
    -- what the file joins or opens is the same, and the rest goes on from the same groups
    have hafter := ih (hturn ds) hrest
    rw [joinGroup] at hafter
    cases hkey : choose (groups.map Group.key) f.name with
    | none =>
      rw [hkey, Option.getD_none] at hafter
      exact hafter
    | some key =>
      rw [hkey, Option.getD_some] at hafter
      exact congrArg (bind (onJoin f key)) (funext fun _ => hafter)

/-- The loop takes in some files, and goes on with the others from the groups that there are
then. -/
theorem groupWith_append [LawfulMonad m] (front rest : List SourceFile) (groups : List Group) :
    groupWith choose onJoin directivesOf ctx (front ++ rest) groups =
      groupWith choose onJoin directivesOf ctx front groups >>=
        groupWith choose onJoin directivesOf ctx rest := by
  induction front generalizing groups with
  | nil => rw [List.nil_append, groupWith, pure_bind]
  | cons f front ih =>
    rw [List.cons_append, groupWith, groupWith, bind_assoc]
    refine congrArg (bind (directivesOf f)) (funext fun ds => ?_)
    cases choose (groups.map Group.key) f.name with
    | none => exact ih _
    | some key =>
      simp only [bind_assoc]
      exact congrArg (bind (onJoin f key)) (funext fun _ => ih _)

end Run

section Steps

variable {σ ε : Type} {choose : KeyChoice} {ctx : GroupContext}
  {onJoin : SourceFile → String → StateT σ (Except ε) Unit}
  {directivesOf : SourceFile → StateT σ (Except ε) DirectiveSet}

/-- A run of two steps is a run of the first and then one of the second. -/
theorem exists_of_run_bind {α β : Type} {x : StateT σ (Except ε) α} {k : α → StateT σ (Except ε) β}
    {b : β} {s s' : σ} (h : (x >>= k).run s = .ok (b, s')) :
    ∃ a s₁, x.run s = .ok (a, s₁) ∧ (k a).run s₁ = .ok (b, s') := by
  rw [StateT.run_bind] at h
  cases hx : x.run s with
  | error e =>
    rw [hx] at h
    exact nomatch h
  | ok p =>
    rw [hx] at h
    exact ⟨p.1, p.2, rfl, h⟩

/-- The groups that there are after some files come about by joining these in turn. -/
theorem exists_of_run_groupWith {files : List SourceFile} {groups gs : List Group} {s s' : σ}
    (h : (groupWith choose onJoin directivesOf ctx files groups).run s = .ok (gs, s')) :
    ∃ xs : List Declared,
      xs.map Prod.fst = files ∧ gs = xs.foldl (joinGroup choose ctx) groups := by
  -- on the files: each gets directives, and joins by them the groups that there are
  induction files generalizing groups s with
  | nil =>
    obtain ⟨rfl, -⟩ := Prod.mk.inj (Except.ok.inj h)
    exact ⟨[], rfl, rfl⟩
  | cons f rest ih =>
    rw [groupWith] at h
    obtain ⟨ds, s₁, -, hrest⟩ := exists_of_run_bind h
    -- after the first file there are the groups that it has joined
    have hturn : ∃ s₂, (groupWith choose onJoin directivesOf ctx rest
        (joinGroup choose ctx groups (f, ds))).run s₂ = .ok (gs, s') := by
      rw [joinGroup]
      cases hkey : choose (groups.map Group.key) f.name with
      | none =>
        rw [hkey] at hrest
        exact ⟨s₁, hrest⟩
      | some key =>
        rw [hkey] at hrest
        obtain ⟨-, s₂, -, hjoined⟩ := exists_of_run_bind hrest
        exact ⟨s₂, hjoined⟩
    obtain ⟨s₂, hrun⟩ := hturn
    obtain ⟨xs, rfl, rfl⟩ := ih hrun
    exact ⟨(f, ds) :: xs, rfl, rfl⟩

end Steps

/-- **The rule of choice does not matter.** Whenever a file comes by, no open key but the last is a
proper prefix of its name; so the groups of a directory, or the failure, are the same if the longest
key is joined, or if only the last is tried. -/
theorem Inventory.group_any_choice (inv : Inventory) (kind : TargetKind) (runtime : String) :
    (∀ (σ ε : Type) (onJoin : SourceFile → String → StateT σ (Except ε) Unit)
        (directivesOf : SourceFile → StateT σ (Except ε) DirectiveSet) (front : List SourceFile)
        (f : SourceFile) (rest : List SourceFile), inv.files = front ++ f :: rest →
      ∀ s gs s', (groupWith firstOpen onJoin directivesOf ⟨inv.dir, kind, runtime⟩ front []).run s =
        .ok (gs, s') →
        (inv.group kind runtime onJoin directivesOf).run s =
          (groupWith firstOpen onJoin directivesOf ⟨inv.dir, kind, runtime⟩ (f :: rest) gs).run s' ∧
        (joinable (gs.map Group.key) f.name = [] ∨
          ∃ key, (gs.map Group.key).getLast? = some key ∧
            joinable (gs.map Group.key) f.name = [key])) ∧
    ∀ (m : Type → Type) [Monad m] (onJoin : SourceFile → String → m Unit)
      (directivesOf : SourceFile → m DirectiveSet),
      groupWith longestOpen onJoin directivesOf ⟨inv.dir, kind, runtime⟩ inv.files [] =
          inv.group kind runtime onJoin directivesOf ∧
        groupWith lastOpen onJoin directivesOf ⟨inv.dir, kind, runtime⟩ inv.files [] =
          inv.group kind runtime onJoin directivesOf := by
  constructor
  · intro σ ε onJoin directivesOf front f rest hsplit s gs s' hrun
    constructor
    · rw [Inventory.group, hsplit, groupWith_append, StateT.run_bind, hrun]
      rfl
    · obtain ⟨xs, hxs, rfl⟩ := exists_of_run_groupWith hrun
      -- the files of the groups and those to come are the inventory
      have hnames : xs.map (fun x => x.1.name) ++ (f :: rest).map SourceFile.name = inv.names := by
        rw [Inventory.names, hsplit, List.map_append, ← hxs, List.map_map]
        rfl
      have hopen : OpenFor (([] : List Group).map Group.key)
          (xs.map (fun x => x.1.name) ++ (f :: rest).map SourceFile.name) := OpenFor.nil _
      have hasc : inv.names.Pairwise (· < ·) := List.pairwise_map.2 inv.ascending
      exact (hopen.foldl_joinGroup firstOpen_triesLast (hnames ▸ hasc)).joinable_cases
  · intro m _ onJoin directivesOf
    exact ⟨groupWith_congr longestOpen_triesLast firstOpen_triesLast (OpenFor.nil _) inv.ascending,
      groupWith_congr lastOpen_triesLast firstOpen_triesLast (OpenFor.nil _) inv.ascending⟩

namespace SimilarNames

/-- When `a_b` comes by, `a` is the key that it can join. -/
theorem joinable_a_b :
    ∃ gs, (groupWith firstOpen (fun _ _ => pure ()) directivesOf ⟨"net", .module, "-lstdc++"⟩
      [file "a", file "a-b"] []).run 0 = .ok (gs, 2) ∧
    (gs.map Group.key).getLast? = some "a" ∧ joinable (gs.map Group.key) "a_b" = ["a"] ∧
    groupWith longestOpen (fun _ _ => pure ()) directivesOf ⟨"net", .module, "-lstdc++"⟩
        inventory.files [] =
      inventory.group .module "-lstdc++" (fun _ _ => pure ()) directivesOf := by
  obtain ⟨hsteps, hchoices⟩ := Inventory.group_any_choice inventory .module "-lstdc++"
  obtain ⟨gs, hgs, hkeys⟩ : ∃ gs, (groupWith firstOpen (fun _ _ => pure ()) directivesOf
      ⟨"net", .module, "-lstdc++"⟩ [file "a", file "a-b"] []).run 0 = .ok (gs, 2) ∧
        gs.map Group.key = ["a"] :=
    ⟨_, by cbv, by cbv⟩
  refine ⟨gs, hgs, ?_, ?_, (hchoices _ _ _).1⟩
  · rw [hkeys]
    rfl
  · rcases (hsteps _ _ _ _ _ (file "a_b") [file "a_bc", file "ab", file "b"] rfl 0 gs 2 hgs).2 with
      hnone | ⟨key, hlast, honly⟩
    · rw [hkeys] at hnone
      exact absurd hnone (by decide_cbv)
    · rw [hkeys] at hlast
      obtain rfl : "a" = key := Option.some.inj hlast
      exact honly

end SimilarNames

end NativeBuild
