import NativeBuild.Proofs.Walking

/-!
# Following in a tree that has changed

A run follows paths before, between and after its changes, so one has to know when a path leads
where it led before. There are three reasons why it does.

* The directories and links on the way have stayed, and what is at its end (`follow_of_kept`). So it
  is when directories are made, or a file is put where nothing was (`follow_of_keeps`).
* What is new has a name that neither the steps nor any link mention (`follow_of_unmentioned`):
  following then never comes there, and even fails as before. So it is with a temporary file.
* What has changed is a file, before or after, and not where the way ends (`follow_of_file`):
  nothing is followed through a file.

`Tree.Reaches` is following steps from the top. Making the directories along steps leads where they
then reach (`leadsAlong_makeAlong`), and each directory that was made is one that a part of the
steps reaches. When the steps reach a directory already, nothing is made (`makeAlong_of_follow`).
-/

namespace NativeBuild

namespace Tree

variable {t t' : Tree} {l q : Location} {last : Bool} {links left : Nat} {steps : List Path.Step}

/-! ### What has stayed -/

/-- A step down to what is no link goes on from there. -/
theorem follow_down_of_get? {b : Bytes} {n : Name} {e : Entry} {rest : List Path.Step}
    (hdir : t.isDir l = true) (hb : Name.ofBytes? b = some n) (hget : t.get? (l ++ [n]) = some e)
    (hlink : ∀ target, e ≠ .link target) :
    t.follow last links l (.down b :: rest) = t.follow last links (l ++ [n]) rest := by
  rw [follow.eq_def]
  dsimp only
  rw [if_pos hdir]
  cases e with
  | link target => exact absurd rfl (hlink target)
  | file content mode => simp only [hb, hget]
  | dir => simp only [hb, hget]

/-- Only from a directory a step is made. -/
theorem isDir_of_follow {step : Path.Step} {rest : List Path.Step} {a : Arrival}
    (h : t.follow last links l (step :: rest) = .ok a) : t.isDir l = true := by
  by_contra hdir
  rw [follow.eq_def] at h
  simp [hdir] at h

/-- Without steps one stays. -/
theorem eq_of_follow_nil (h : t.follow last links l [] = .ok ⟨.occupied q, left⟩) : l = q := by
  rw [follow] at h
  simp only [Except.ok.injEq, Arrival.mk.injEq, Place.occupied.injEq] at h
  exact h.1

/-- What leads to a directory starts at one. -/
theorem isDir_of_follow_isDir (h : t.follow last links l steps = .ok ⟨.occupied q, left⟩)
    (hq : t.isDir q = true) :
    t.isDir l = true := by
  cases steps with
  | nil => rwa [eq_of_follow_nil h]
  | cons step rest => exact isDir_of_follow h

/-- From a file there is no way on. -/
theorem eq_of_follow_file {content : Bytes} {mode : Nat}
    (hfile : t.get? l = some (.file content mode))
    (h : t.follow last links l steps = .ok ⟨.occupied q, left⟩) : l = q := by
  cases steps with
  | nil => exact eq_of_follow_nil h
  | cons step rest =>
    have hdir := isDir_of_follow h
    simp [isDir, hfile] at hdir

/-- A step down that leads to an entry in the end leads to an entry at first. -/
theorem exists_get?_of_follow_down {b : Bytes} {rest : List Path.Step}
    (h : t.follow last links l (.down b :: rest) = .ok ⟨.occupied q, left⟩) :
    ∃ n e, Name.ofBytes? b = some n ∧ t.get? (l ++ [n]) = some e := by
  have hl := isDir_of_follow h
  rw [follow.eq_def] at h
  dsimp only at h
  rw [if_pos hl] at h
  -- a step that is no name, or a name that nothing has, leads to nothing
  cases hb : Name.ofBytes? b with
  | none => simp [hb] at h
  | some n =>
    cases hget : t.get? (l ++ [n]) with
    | none =>
      simp only [hb, hget] at h
      split at h <;> simp at h
    | some e => exact ⟨n, e, rfl, hget⟩

/-- **Following comes to a place again** in a tree that keeps the directories, the links, and what
is at the place. -/
theorem follow_of_kept (hdirs : ∀ k, t.isDir k = true → t'.isDir k = true)
    (hlinks : ∀ k target, t.get? k = some (.link target) → t'.get? k = some (.link target))
    (hend : ∀ e, t.get? q = some e → t'.get? q = some e)
    (h : t.follow last links l steps = .ok ⟨.occupied q, left⟩) :
    t'.follow last links l steps = .ok ⟨.occupied q, left⟩ := by
  -- only the cases that arrive somewhere are left: in them each place on the way is kept
  fun_induction Tree.follow t last links l steps with
  | case1 => rw [follow, h]
  | case2 links l rest hdir ih =>
    rw [follow, if_pos (hdirs l hdir)]
    exact ih h
  | case3 links l rest hdir ih =>
    rw [follow, if_pos (hdirs l hdir)]
    exact ih h
  | case7 links l rest hdir b n hb target hget hstop =>
    rw [follow, if_pos (hdirs l hdir)]
    simp only [hb, hlinks _ _ hget, if_pos hstop]
    exact h
  | case10 l rest hdir b n hb target hget hgo links hempty ih =>
    rw [follow_down_of_link (hdirs l hdir) hb (hlinks _ _ hget) hgo]
    dsimp only
    rw [if_neg hempty]
    exact ih h
  | case11 links l rest hdir b n hb e hlink hget ih =>
    have hget' : t'.get? (l ++ [n]) = some e := by
      cases e with
      | dir => exact decide_eq_true_iff.1 (hdirs _ (decide_eq_true hget))
      | link target => exact absurd rfl (hlink target)
      | file content mode =>
        obtain rfl := eq_of_follow_file hget h
        exact hend _ hget
    rw [follow_down_of_get? (hdirs l hdir) hb hget' hlink]
    exact ih h
  | _ => simp at h

/-- So it is in a tree that keeps what was there. -/
theorem follow_of_keeps (hkeeps : ∀ k e, t.get? k = some e → t'.get? k = some e)
    (h : t.follow last links l steps = .ok ⟨.occupied q, left⟩) :
    t'.follow last links l steps = .ok ⟨.occupied q, left⟩ :=
  follow_of_kept (fun k hk => decide_eq_true (hkeeps k _ (decide_eq_true_iff.1 hk)))
    (fun k _ => hkeeps k _) (hkeeps q) h

/-! ### What nobody mentions -/

/-- Steps **mention** a name if one of them goes down to it. -/
def Mentions (steps : List Path.Step) (n : Name) : Prop := .down n.bytes ∈ steps

/-- A step down is one of the components. -/
theorem mem_components_of_down_mem_steps {p : Path} {c : Bytes} (h : .down c ∈ p.steps) :
    c ∈ p.components := by
  obtain ⟨c', hc', he⟩ := List.mem_map.1 h
  exact (Path.Step.down_eq_ofComponent he).1 ▸ hc'

/-- And it is, also if the walk ends in a slash. -/
theorem mem_components_of_down_mem_walk {p : Path} {c : Bytes} (h : .down c ∈ p.walk) :
    c ∈ p.components := by
  rcases List.mem_append.1 h with h | h
  · exact mem_components_of_down_mem_steps h
  · split at h <;> simp at h

theorem not_mentions_tail {n : Name} {step : Path.Step} {rest : List Path.Step}
    (h : ¬ Mentions (step :: rest) n) :
    ¬ Mentions rest n :=
  fun hm => h (List.mem_cons_of_mem _ hm)

/-- A step that mentions some other name leads to where this one is not. -/
theorem notMem_concat {n m : Name} {b : Bytes} {rest : List Path.Step} (hl : n ∉ l)
    (hb : Name.ofBytes? b = some m) (h : ¬ Mentions (.down b :: rest) n) : n ∉ l ++ [m] := by
  have hne : n ≠ m := by
    rintro rfl
    exact h (Name.bytes_of_ofBytes? hb ▸ List.mem_cons_self)
  simp [hl, hne]

section Unmentioned

variable {n : Name}
  (hlinks : ∀ k target, t.get? k = some (.link target) → n.bytes ∉ target.components)

include hlinks

/-- No link leads along a name that none mentions. -/
theorem not_mentions_walk_append {k : Location} {target : Path}
    (hget : t.get? k = some (.link target)) {rest : List Path.Step}
    (hrest : ¬ Mentions rest n) : ¬ Mentions (target.walk ++ rest) n := by
  intro hm
  rcases List.mem_append.1 hm with hm | hm
  · exact hlinks k target hget (mem_components_of_down_mem_walk hm)
  · exact hrest hm

/-- Where nobody mentions a name, following does not come to it. -/
theorem notMem_of_follow (hl : n ∉ l) (hsteps : ¬ Mentions steps n)
    (h : t.follow last links l steps = .ok ⟨.occupied q, left⟩) : n ∉ q := by
  -- a name comes in by a step or by the target of a link, and neither mentions it
  fun_induction Tree.follow t last links l steps with
  | case1 => simp_all
  | case2 links l rest hdir ih => exact ih hl (not_mentions_tail hsteps) h
  | case3 links l rest hdir ih =>
    exact ih (fun hm => hl (List.dropLast_subset l hm)) (not_mentions_tail hsteps) h
  | case7 links l rest hdir b m hb target hget hstop =>
    simp only [Except.ok.injEq, Arrival.mk.injEq, Place.occupied.injEq] at h
    exact h.1 ▸ notMem_concat hl hb hsteps
  | case10 l rest hdir b m hb target hget hgo links hempty ih =>
    refine ih ?_ (not_mentions_walk_append hlinks hget (not_mentions_tail hsteps)) h
    split
    · exact List.not_mem_nil
    · exact hl
  | case11 links l rest hdir b m hb e hlink hget ih =>
    exact ih (notMem_concat hl hb hsteps) (not_mentions_tail hsteps) h
  | _ => simp at h

/-- **Following is the same** in a tree that differs only where a name is that nobody mentions. -/
theorem follow_of_unmentioned (hagree : ∀ k, n ∉ k → t'.get? k = t.get? k) (hl : n ∉ l)
    (hsteps : ¬ Mentions steps n) : t'.follow last links l steps = t.follow last links l steps := by
  have hdirs : ∀ k, n ∉ k → t'.isDir k = t.isDir k := fun k hk => by rw [isDir, hagree k hk, isDir]
  -- step by step: the way never comes to a place that has the name in it, and elsewhere the trees
  -- agree
  fun_induction Tree.follow t last links l steps with
  | case1 => rw [follow]
  | case2 links l rest hdir ih =>
    rw [follow, if_pos (hdirs l hl ▸ hdir)]
    exact ih hl (not_mentions_tail hsteps)
  | case3 links l rest hdir ih =>
    rw [follow, if_pos (hdirs l hl ▸ hdir)]
    exact ih (fun hm => hl (List.dropLast_subset l hm)) (not_mentions_tail hsteps)
  | case4 links l rest hdir b hb =>
    -- a name that cannot be
    rw [follow, if_pos (hdirs l hl ▸ hdir)]
    simp only [hb]
  | case5 links l hdir b m hb hget =>
    -- a name that nothing has, at the end of the way and before it
    have hm : n ∉ l ++ [m] := notMem_concat hl hb hsteps
    rw [follow, if_pos (hdirs l hl ▸ hdir)]
    simp only [hb, hagree _ hm, hget, if_true]
  | case6 links l rest hdir b m hb hget hrest =>
    have hm : n ∉ l ++ [m] := notMem_concat hl hb hsteps
    rw [follow, if_pos (hdirs l hl ▸ hdir)]
    simp only [hb, hagree _ hm, hget, if_neg hrest]
  | case7 links l rest hdir b m hb target hget hstop =>
    -- a link that the way ends at, and links that it goes through
    have hm : n ∉ l ++ [m] := notMem_concat hl hb hsteps
    rw [follow, if_pos (hdirs l hl ▸ hdir)]
    simp only [hb, hagree _ hm, hget, if_pos hstop]
  | case8 l rest hdir b m hb target hget hgo =>
    have hm : n ∉ l ++ [m] := notMem_concat hl hb hsteps
    rw [follow_down_of_link (hdirs l hl ▸ hdir) hb ((hagree _ hm).trans hget) hgo]
  | case9 l rest hdir b m hb target hget hgo links hempty =>
    have hm : n ∉ l ++ [m] := notMem_concat hl hb hsteps
    rw [follow_down_of_link (hdirs l hl ▸ hdir) hb ((hagree _ hm).trans hget) hgo]
    simp [hempty]
  | case10 l rest hdir b m hb target hget hgo links hempty ih =>
    have hm : n ∉ l ++ [m] := notMem_concat hl hb hsteps
    rw [follow_down_of_link (hdirs l hl ▸ hdir) hb ((hagree _ hm).trans hget) hgo]
    dsimp only
    rw [if_neg hempty]
    refine ih ?_ (not_mentions_walk_append hlinks hget (not_mentions_tail hsteps))
    split
    · exact List.not_mem_nil
    · exact hl
  | case11 links l rest hdir b m hb e hlink hget ih =>
    have hm : n ∉ l ++ [m] := notMem_concat hl hb hsteps
    rw [follow_down_of_get? (hdirs l hl ▸ hdir) hb ((hagree _ hm).trans hget) hlink]
    exact ih hm (not_mentions_tail hsteps)
  | case12 links l step rest hdir =>
    rw [follow.eq_def]
    dsimp only
    rw [hdirs l hl, if_neg hdir]

end Unmentioned

/-! ### Files on the way -/

/-- **Nothing is followed through a file**: what is reached with a file at a place is reached
without it, unless it is the file. -/
theorem follow_of_file {k : Location} {content : Bytes} {mode : Nat}
    (hfile : t'.get? k = some (.file content mode)) (hagree : ∀ j, j ≠ k → t.get? j = t'.get? j)
    (hq : q ≠ k) (h : t'.follow last links l steps = .ok ⟨.occupied q, left⟩) :
    t.follow last links l steps = .ok ⟨.occupied q, left⟩ := by
  have hkeeps : ∀ j e, t'.get? j = some e → e ≠ .file content mode → t.get? j = some e := by
    intro j e hj he
    have hne : j ≠ k := by
      rintro rfl
      exact he (Option.some.inj (hj.symm.trans hfile))
    rw [hagree j hne, hj]
  refine follow_of_kept (fun j hj => ?_) (fun j target hj => hkeeps j _ hj (by simp))
    (fun e he => ?_) h
  · exact decide_eq_true (hkeeps j _ (decide_eq_true_iff.1 hj) (by simp))
  · rw [hagree q hq, he]

/-! ### Steps from the top -/

/-- Steps from the top **reach** a location. -/
def Reaches (t : Tree) (steps : List Path.Step) (d : Location) : Prop :=
  ∃ left, t.follow true linkLimit [] steps = .ok ⟨.occupied d, left⟩

/-- Steps reach one place at most. -/
theorem Reaches.eq {d d' : Location} (h : t.Reaches steps d) (h' : t.Reaches steps d') :
    d = d' := by
  obtain ⟨left, h⟩ := h
  obtain ⟨left', h'⟩ := h'
  have he := h.symm.trans h'
  simp only [Except.ok.injEq, Arrival.mk.injEq, Place.occupied.injEq] at he
  exact he.1

/-- What steps reach they reach in a tree that has more. -/
theorem Reaches.of_keeps {d : Location} (hkeeps : ∀ k e, t.get? k = some e → t'.get? k = some e)
    (h : t.Reaches steps d) : t'.Reaches steps d := by
  obtain ⟨left, h⟩ := h
  exact ⟨left, follow_of_keeps hkeeps h⟩

/-- A path is one of a directory if it resolves to one. -/
theorem isDirAt_iff {p : Path} : t.isDirAt p = true ↔ ∃ l left, t.resolve p = .ok (l, left) ∧
    t.isDir l = true := by
  have hiff : t.isDirAt p = true ↔ t.entryAt p = .ok .dir := by
    unfold isDirAt
    split
    · rename_i he
      exact iff_of_true rfl he
    · rename_i he
      exact iff_of_false Bool.false_ne_true he
  rw [hiff, entryAt_eq_ok_iff]
  simp only [isDir, decide_eq_true_eq]

/-- **A directory at a path** is reached by the steps along it; a slash at the end makes no
difference. -/
theorem reaches_of_isDirAt {p : Path} (h : t.isDirAt p = true) :
    p.fault? = none ∧ ∃ d, t.Reaches p.steps d ∧ t.isDir d = true := by
  obtain ⟨l, left, hr, hl⟩ := isDirAt_iff.1 h
  obtain ⟨hfault, hf⟩ := resolve_eq_ok_iff.1 hr
  refine ⟨hfault, ?_⟩
  rw [Path.walk, follow_append (Or.inl rfl)] at hf
  split at hf
  · rename_i q left' hq
    exact ⟨q, ⟨left', hq⟩, isDir_of_follow_isDir hf hl⟩
  · split at hf <;> simp at hf
  · simp at hf

/-! ### Making directories -/

/-- To go through a link costs one, and goes on from the top or from where the link is. -/
theorem throughLink_eq_ok {target : Path} (h : t.throughLink links l target = .ok (q, left)) :
    ∃ links', links = links' + 1 ∧ target.bytes ≠ [] ∧
      t.follow true links' (if target.isAbsolute then [] else l) target.walk =
        .ok ⟨.occupied q, left⟩ := by
  unfold throughLink at h
  split at h
  · simp at h
  · rename_i links'
    split at h
    · simp at h
    · rename_i hempty
      split at h
      · rename_i hf
        obtain ⟨rfl, rfl⟩ := Prod.mk.inj (Except.ok.inj h)
        exact ⟨links', rfl, hempty, hf⟩
      · simp at h
      · simp at h

/-- Through a link that leads to a directory steps go on from there. -/
theorem follow_down_of_throughLink {b : Bytes} {n : Name} {target : Path} {rest : List Path.Step}
    (hdir : t.isDir l = true) (hb : Name.ofBytes? b = some n)
    (hget : t.get? (l ++ [n]) = some (.link target))
    (h : t.throughLink links l target = .ok (q, left)) :
    t.follow true links l (.down b :: rest) = t.follow true left q rest := by
  obtain ⟨links', rfl, hempty, hf⟩ := throughLink_eq_ok h
  rw [follow_down_of_link hdir hb hget (by simp)]
  simp only [if_neg hempty, follow_append (Or.inl rfl), hf]

/-- Steps that go on from a link go on from where it leads. -/
theorem exists_throughLink_of_follow {b : Bytes} {n : Name} {target : Path} {rest : List Path.Step}
    (hdir : t.isDir l = true) (hb : Name.ofBytes? b = some n)
    (hget : t.get? (l ++ [n]) = some (.link target))
    (h : t.follow true links l (.down b :: rest) = .ok ⟨.occupied q, left⟩) :
    ∃ there left', t.throughLink links l target = .ok (there, left') ∧
      t.follow true left' there rest = .ok ⟨.occupied q, left⟩ := by
  rw [follow_down_of_link hdir hb hget (by simp)] at h
  -- the link has to cost one, and what it leads to has to be there for the rest
  cases links with
  | zero => simp at h
  | succ links' =>
    dsimp only at h
    split at h
    · simp at h
    · rename_i hempty
      rw [follow_append (Or.inl rfl)] at h
      split at h
      · rename_i there left' hf
        refine ⟨there, left', ?_, h⟩
        rw [throughLink, if_neg hempty, hf]
      · split at h <;> simp at h
      · simp at h

/-- A link leads to the same place in a tree that has more. -/
theorem throughLink_of_keeps {target : Path}
    (hkeeps : ∀ k e, t.get? k = some e → t'.get? k = some e)
    (h : t.throughLink links l target = .ok (q, left)) :
    t'.throughLink links l target = .ok (q, left) := by
  obtain ⟨links', rfl, hempty, hf⟩ := throughLink_eq_ok h
  rw [throughLink, if_neg hempty, follow_of_keeps hkeeps hf]

/-- **A step down that makes directories** finds a directory, or it makes one, or it follows a link
to one. -/
theorem makeAlong_down_eq_ok {made : Bool} {b : Bytes} {rest : List Path.Step}
    (h : t.makeAlong links made l (.down b :: rest) = (t', .ok ())) :
    ∃ n, Name.ofBytes? b = some n ∧
      ((t.get? (l ++ [n]) = some .dir ∧ t.makeAlong links made (l ++ [n]) rest = (t', .ok ())) ∨
        (t.get? (l ++ [n]) = none ∧
          ∃ hadmits, (t.put l n .dir hadmits).makeAlong links true (l ++ [n]) rest = (t', .ok ())) ∨
        ∃ target there left, t.get? (l ++ [n]) = some (.link target) ∧
          t.throughLink links l target = .ok (there, left) ∧
          t.isDir there = true ∧ t.makeAlong left made there rest = (t', .ok ())) := by
  unfold makeAlong at h
  cases hb : Name.ofBytes? b with
  | none => simp [hb] at h
  | some n =>
    refine ⟨n, rfl, ?_⟩
    simp only [hb] at h
    -- the directory is made, is there, or is behind a link
    cases hget : t.get? (l ++ [n]) with
    | none =>
      simp only [hget] at h
      split at h
      · rename_i hadmits
        exact Or.inr (Or.inl ⟨rfl, hadmits, h⟩)
      · simp at h
    | some e =>
      simp only [hget] at h
      cases e with
      | file content mode => simp at h
      | dir => exact Or.inl ⟨rfl, h⟩
      | link target =>
        dsimp only at h
        cases hthrough : t.throughLink links l target with
        | error e => simp [hthrough] at h
        | ok there =>
          obtain ⟨there, left⟩ := there
          simp only [hthrough] at h
          split at h
          · rename_i hdir
            exact Or.inr (Or.inr ⟨target, there, left, rfl, hthrough, hdir, h⟩)
          · simp at h

/-- The steps from a place **lead along** the directories that are new in `t'`. -/
structure LeadsAlong (t t' : Tree) (links : Nat) (l : Location) (steps : List Path.Step) :
    Prop where
  /-- They lead to a directory, -/
  arrives : ∃ d left, t'.follow true links l steps = .ok ⟨.occupied d, left⟩ ∧ t'.isDir d = true
  /-- and each new directory is where a part of them leads. -/
  onTheWay : ∀ k, t.get? k = none → t'.isDir k = true →
    ∃ front back left, steps = front ++ back ∧
      t'.follow true links l front = .ok ⟨.occupied k, left⟩

/-- What holds from the next place on holds from here, if no other place is new by then. -/
theorem LeadsAlong.cons {t₁ : Tree} {links₁ : Nat} {l₁ : Location} {step : Path.Step}
    {rest : List Path.Step} (h : t₁.LeadsAlong t' links₁ l₁ rest)
    (hstep : ∀ rest, t'.follow true links l (step :: rest) = t'.follow true links₁ l₁ rest)
    (hnew : ∀ k, k ≠ l₁ → t.get? k = none → t₁.get? k = none) :
    t.LeadsAlong t' links l (step :: rest) where
  arrives := by
    rw [hstep]
    exact h.arrives
  onTheWay k hnone hk := by
    by_cases hl : k = l₁
    · exact ⟨[step], rest, links₁, rfl, by rw [hstep, follow, hl]⟩
    · obtain ⟨front, back, left, rfl, hfront⟩ := h.onTheWay k (hnew k hl hnone) hk
      exact ⟨step :: front, back, left, rfl, (hstep front).trans hfront⟩

/-- **Directories that were made are on the way.** -/
theorem leadsAlong_makeAlong {made : Bool} (hl : t.isDir l = true)
    (h : t.makeAlong links made l steps = (t', .ok ())) : t.LeadsAlong t' links l steps := by
  -- on the steps, with the tree as they have made it so far
  induction steps generalizing t links made l with
  | nil =>
    obtain ⟨rfl, -⟩ := Prod.mk.inj h
    refine ⟨⟨l, links, by rw [follow], hl⟩, fun k hnone hk => ?_⟩
    rw [isDir, hnone] at hk
    simp at hk
  | cons step rest ih =>
    have hkeeps : ∀ k e, t.get? k = some e → t'.get? k = some e := by
      have hmade := gainsDirs_makeAlong t links made l (step :: rest)
      rw [h] at hmade
      exact hmade.keeps
    have hl' : t'.isDir l = true := decide_eq_true (hkeeps l _ (decide_eq_true_iff.1 hl))
    cases step with
    | here => exact (ih hl h).cons (fun rest => by rw [follow, if_pos hl']) fun k _ hnone => hnone
    | up =>
      exact (ih (isDir_dropLast hl) h).cons (fun rest => by rw [follow, if_pos hl'])
        fun k _ hnone => hnone
    | down b =>
      obtain ⟨n, hb, ⟨hget, h⟩ | ⟨-, hadmits, h⟩ |
            ⟨target, there, left, hget, hthrough, hdir, h⟩⟩ :=
        makeAlong_down_eq_ok h
      · exact (ih (decide_eq_true hget) h).cons
          (fun rest => follow_down_of_get? hl' hb (hkeeps _ _ hget) (by simp))
          fun k _ hnone => hnone
      · -- a directory is made, and the rest of the way leads from it
        have hput : (t.put l n .dir hadmits).get? (l ++ [n]) = some .dir := by
          rw [get?_put, if_pos rfl]
        have hget : t'.get? (l ++ [n]) = some .dir := by
          have hmade := gainsDirs_makeAlong (t.put l n .dir hadmits) links true (l ++ [n]) rest
          rw [h] at hmade
          exact hmade.keeps _ _ hput
        exact (ih (decide_eq_true hput) h).cons
          (fun rest => follow_down_of_get? hl' hb hget (by simp))
          fun k hk hnone => by rw [get?_put, if_neg (Ne.symm hk), hnone]
      · exact (ih hdir h).cons (fun rest => follow_down_of_throughLink hl' hb (hkeeps _ _ hget)
          (throughLink_of_keeps hkeeps hthrough)) fun k _ hnone => hnone

/-- **Nothing is made** on a way that leads to a directory. -/
theorem makeAlong_of_follow {made : Bool}
    (h : t.follow true links l steps = .ok ⟨.occupied q, left⟩)
    (hq : t.isDir q = true) : t.makeAlong links made l steps = (t, .ok ()) := by
  -- on the steps, none of which has anything to make
  induction steps generalizing links made l with
  | nil => rfl
  | cons step rest ih =>
    have hdir := isDir_of_follow h
    cases step with
    | here =>
      rw [follow, if_pos hdir] at h
      exact ih h
    | up =>
      rw [follow, if_pos hdir] at h
      exact ih h
    | down b =>
      obtain ⟨n, e, hb, hget⟩ := exists_get?_of_follow_down h
      unfold makeAlong
      simp only [hb, hget]
      cases e with
      | file content mode =>
        rw [follow_down_of_get? hdir hb hget (by simp)] at h
        have hnot := isDir_of_follow_isDir h hq
        simp [isDir, hget] at hnot
      | dir =>
        rw [follow_down_of_get? hdir hb hget (by simp)] at h
        exact ih h
      | link target =>
        obtain ⟨there, left', hthrough, h⟩ := exists_throughLink_of_follow hdir hb hget h
        simp only [hthrough, isDir_of_follow_isDir h hq, if_true]
        exact ih h

end Tree

end NativeBuild
