import NativeBuild.Proofs.Descending

/-!
# Walks step by step

A walk that follows links is told here as a loop. It keeps the directories that it is in, the
deepest first, each with the entries that it has not come to yet (`Frame`). A step goes on to the
next entry of the deepest directory, or leaves that directory when no entry is ahead (`Tree.step`).
The walk has ended when it is in no directory any more.

Nothing in a step limits how deep a walk can go, and names alone do not: a link may lead above the
directory that the walk began in, and then real directories are entered again, without any test.
What ends the walk is the test of links alone, which a potential shows (`Tree.potential`). A link is
followed only to a directory that the walk is not in, so there is one less of those, and at a given
number of those each directory that is entered by its own name lies deeper than the one before. The
number of links that may still be followed plays no part in this. So there is a number of steps
after which every walk through a tree has ended (`Tree.walkBound`), and what it has met then is what
the walk by recursion meets (`Tree.advance_enter`).
-/

namespace NativeBuild

/-- A **directory that a walk is in**, with the number of links left there and the entries that are
ahead. -/
structure Frame where
  standing : Standing
  links : Nat
  ahead : List (Name × Entry)

namespace Tree

variable {t : Tree} {reachable : List Name → Bool} {links left : Nat} {l d : Location}
  {s : Standing} {outer : List Standing} {x : Name × Entry}

/-! ### Steps -/

/-- A directory that has just been entered: all of its entries are ahead. -/
def enter (t : Tree) (links : Nat) (place : Location) (trail : List Name) : Frame :=
  ⟨⟨place, trail⟩, links, t.entriesOf place⟩

/-- **One step** of a walk that is in the given directories, the deepest first. -/
def step (t : Tree) (reachable : List Name → Bool) : List Frame → Walked (List Frame)
  | [] => pure []
  | ⟨_, _, []⟩ :: frames => pure frames
  | ⟨s, links, x :: ahead⟩ :: frames => do
    match ← t.meet reachable links s (frames.map Frame.standing) x with
    | none => return ⟨s, links, ahead⟩ :: frames
    | some (d, left) => return t.enter left d (s.trail ++ [x.1]) :: ⟨s, links, ahead⟩ :: frames

/-- A number of steps. -/
def advance (t : Tree) (reachable : List Name → Bool) : Nat → List Frame → Walked (List Frame)
  | 0, frames => pure frames
  | k + 1, frames => t.step reachable frames >>= t.advance reachable k

/-- One step, and then the others. -/
theorem advance_succ (t : Tree) (reachable : List Name → Bool) (k : Nat) (frames : List Frame) :
    t.advance reachable (k + 1) frames = t.step reachable frames >>= t.advance reachable k := rfl

/-- A walk that has ended stays as it is. -/
theorem advance_nil (t : Tree) (reachable : List Name → Bool) (k : Nat) :
    t.advance reachable k [] = pure [] := by
  induction k with
  | zero => rfl
  | succ k ih =>
    rw [advance_succ, step, pure_bind]
    exact ih

/-! ### What is met at one entry -/

/-- **What a walk comes to is one of three**: it stops, notes an entry, or goes on in a
directory. -/
theorem meet_cases (t : Tree) (reachable : List Name → Bool) (links : Nat) (s : Standing)
    (outer : List Standing)
    (x : Name × Entry) : (∃ fault, t.meet reachable links s outer x = Traced.fail fault) ∨
      (t.meet reachable links s outer x = do
        Traced.note (s.trail ++ [x.1])
        return none) ∨
      ∃ d left, t.meet reachable links s outer x = pure (some (d, left)) := by
  obtain ⟨n, e⟩ := x
  rw [meet]
  -- an entry is noted, passed on, or at fault
  cases e with
  | file content mode => exact Or.inr (Or.inl rfl)
  | dir =>
    dsimp only
    split
    · exact Or.inr (Or.inr ⟨_, _, rfl⟩)
    · exact Or.inl ⟨_, rfl⟩
  | link target =>
    dsimp only
    split
    · cases t.throughLink links s.place target with
      | error fault => exact Or.inl ⟨_, rfl⟩
      | ok a =>
        obtain ⟨there, left⟩ := a
        dsimp only
        split
        · cases (s :: outer).find? (·.place = there) with
          | some a => exact Or.inl ⟨_, rfl⟩
          | none => exact Or.inr (Or.inr ⟨there, left, rfl⟩)
        · exact Or.inr (Or.inl rfl)
    · exact Or.inl ⟨_, rfl⟩

variable {n : Name} {o : Option (Location × Nat)}

theorem result_meet_file (content : Bytes) (mode : Nat) :
    (t.meet reachable links s outer (n, .file content mode)).result = .ok none := rfl

/-- A directory that is in reach is where the walk goes on. -/
theorem result_meet_dir_iff : (t.meet reachable links s outer (n, .dir)).result = .ok o ↔
    reachable (s.trail ++ [n]) = true ∧ o = some (s.place ++ [n], links) := by
  rw [meet]
  dsimp only
  split <;> simp [*, eq_comm]

/-- **A link is followed** if it leads somewhere, and to a directory only if the walk is not in
that. -/
theorem result_meet_link_iff {target : Path} :
    (t.meet reachable links s outer (n, .link target)).result = .ok o ↔
    reachable (s.trail ++ [n]) = true ∧ ∃ there left,
      t.throughLink links s.place target = .ok (there, left) ∧
      (t.isDir there = true ∧ (∀ a ∈ s :: outer, a.place ≠ there) ∧ o = some (there, left) ∨
        t.isDir there = false ∧ o = none) := by
  rw [meet]
  dsimp only
  by_cases hreach : reachable (s.trail ++ [n]) = true
  · rw [if_pos hreach, and_iff_right hreach]
    cases t.throughLink links s.place target with
    | error fault => simp
    | ok a =>
      obtain ⟨there, left⟩ := a
      simp only [Except.ok.injEq, Prod.mk.injEq, and_assoc, exists_and_left, exists_eq_left']
      -- behind a directory the walk goes on, unless it is in it already
      by_cases hdir : t.isDir there = true
      · have hfree : (s :: outer).find? (·.place = there) = none ↔
            ∀ a ∈ s :: outer, a.place ≠ there := by
          simp only [List.find?_eq_none, decide_eq_true_eq, ne_eq]
        rw [if_pos hdir, ← hfree]
        cases (s :: outer).find? (·.place = there) with
        | some a => simp [hdir]
        | none => simp [hdir, eq_comm]
      · rw [if_neg hdir]
        rw [Bool.not_eq_true] at hdir
        change Except.ok none = Except.ok o ↔ _
        simp [hdir, eq_comm]
  · rw [if_neg hreach]
    simp [hreach]

/-! ### The potential -/

/-- The directories of a tree. -/
def dirs (t : Tree) : List Location := [] :: (t.entries.filter fun x => x.2 = .dir).map Prod.fst

/-- How deep the deepest directory lies. -/
def height (t : Tree) : Nat := (t.dirs.map List.length).max?.getD 0

/-- The directories that a walk is not in. -/
def otherDirs (t : Tree) : List Standing → List Location
  | [] => t.dirs
  | s :: outer => (t.otherDirs outer).filter (· ≠ s.place)

/-- The **potential** of a walk that is in the directories `s :: outer`: first, how many directories
it is not in, and then how far down it can go from the deepest. -/
def potential (t : Tree) (s : Standing) (outer : List Standing) : Nat :=
  (t.otherDirs (s :: outer)).length * (t.height + 1) + (t.height - s.place.length)

theorem mem_dirs_iff : d ∈ t.dirs ↔ t.isDir d = true := by
  rw [isDir_iff_hasDir, Entries.HasDir, dirs, List.mem_cons]
  refine or_congr_right ?_
  simp only [List.mem_map, List.mem_filter, decide_eq_true_eq, Prod.exists, exists_and_right,
    exists_eq_right]

/-- No directory lies deeper than the tree is high. -/
theorem length_le_height (h : t.isDir d = true) : d.length ≤ t.height :=
  List.le_max?_getD_of_mem (List.mem_map_of_mem (mem_dirs_iff.2 h))

theorem mem_otherDirs_iff : d ∈ t.otherDirs outer ↔
    t.isDir d = true ∧ ∀ a ∈ outer, a.place ≠ d := by
  induction outer with
  | nil => simp [otherDirs, mem_dirs_iff]
  | cons s outer ih =>
    rw [otherDirs, List.mem_filter, ih, decide_eq_true_iff, List.forall_mem_cons, and_assoc,
      ne_comm]
    exact and_congr_right fun _ => and_comm

/-- There are no more other directories than directories. -/
theorem length_otherDirs_le (t : Tree) (outer : List Standing) :
    (t.otherDirs outer).length ≤ t.dirs.length := by
  induction outer with
  | nil => exact Nat.le_refl _
  | cons s outer ih => exact (List.length_filter_le _ _).trans ih

/-- There is one directory less that a walk is not in when it enters such a directory. -/
theorem length_otherDirs_lt (hdir : t.isDir s.place = true)
    (hnew : ∀ a ∈ outer, a.place ≠ s.place) :
    (t.otherDirs (s :: outer)).length < (t.otherDirs outer).length :=
  List.length_filter_lt_length_iff_exists.2 ⟨s.place, mem_otherDirs_iff.2 ⟨hdir, hnew⟩, by simp⟩

/-- No potential is greater. -/
def potentialBound (t : Tree) : Nat := t.dirs.length * (t.height + 1) + t.height

/-- **The potential has a bound** that does not depend on where the walk is. -/
theorem potential_le (t : Tree) (s : Standing) (outer : List Standing) :
    t.potential s outer ≤ t.potentialBound :=
  Nat.add_le_add (Nat.mul_le_mul_right _ (t.length_otherDirs_le _)) (Nat.sub_le _ _)

/-- **Entering a directory** lowers the potential. -/
theorem potential_lt_of_meet (hx : x ∈ t.entriesOf s.place)
    (h : (t.meet reachable links s outer x).result = .ok (some (d, left))) :
    t.potential ⟨d, s.trail ++ [x.1]⟩ (s :: outer) < t.potential s outer := by
  obtain ⟨n, e⟩ := x
  cases e with
  | file content mode => simp [result_meet_file] at h
  | dir =>
    -- it may be one that the walk is in already, but it lies deeper
    obtain ⟨-, hd⟩ := result_meet_dir_iff.1 h
    obtain ⟨rfl, rfl⟩ := Prod.mk.inj (Option.some.inj hd)
    have hdir : t.isDir (s.place ++ [n]) = true := decide_eq_true (mem_entriesOf_iff.1 hx)
    have hheight := length_le_height hdir
    rw [List.length_append, List.length_singleton] at hheight
    have hothers : (t.otherDirs (⟨s.place ++ [n], s.trail ++ [n]⟩ :: s :: outer)).length ≤
        (t.otherDirs (s :: outer)).length := List.length_filter_le _ _
    have hmul := Nat.mul_le_mul_right (t.height + 1) hothers
    simp only [potential, List.length_append, List.length_singleton]
    omega
  | link target =>
    obtain ⟨-, there, k, -, ⟨hdir, hnew, hd⟩ | ⟨-, hd⟩⟩ := result_meet_link_iff.1 h
    · -- wherever it lies, there is one less that the walk is not in
      obtain ⟨rfl, rfl⟩ := Prod.mk.inj (Option.some.inj hd)
      have hothers := length_otherDirs_lt (s := ⟨d, s.trail ++ [n]⟩) hdir hnew
      have hmul := Nat.mul_le_mul_right (t.height + 1) (Nat.succ_le_of_lt hothers)
      rw [Nat.succ_mul] at hmul
      simp only [potential]
      omega
    · simp at hd

/-! ### How long a walk takes -/

/-- The number of steps that suffices below a directory where the potential is lower than the given
one. -/
def patience (t : Tree) : Nat → Nat
  | 0 => 0
  | m + 1 => 1 + t.entries.length * (1 + t.patience m)

/-- The number of steps after which every walk through the tree **has ended**. -/
def walkBound (t : Tree) : Nat := t.patience (t.potentialBound + 1)

/-- The entries ahead in one directory, if the walks below directories of a lower potential end. -/
theorem exists_advance_frame {m : Nat}
    (hbelow : ∀ links s frames, t.potential s (frames.map Frame.standing) < m →
      ∃ k ≤ t.patience m, ∀ j,
        t.advance reachable (k + j) (t.enter links s.place s.trail :: frames) =
        t.walkBelow reachable links s.place s.trail (frames.map Frame.standing) >>= fun _ =>
          t.advance reachable j frames)
    (links : Nat) (frames : List Frame) (hm : t.potential s (frames.map Frame.standing) < m + 1)
    {ahead : List (Name × Entry)} (hahead : ∀ x ∈ ahead, x ∈ t.entriesOf s.place) :
    ∃ k ≤ 1 + ahead.length * (1 + t.patience m), ∀ j,
      t.advance reachable (k + j) (⟨s, links, ahead⟩ :: frames) =
      ahead.forM (t.visit reachable links s (frames.map Frame.standing)) >>= fun _ =>
        t.advance reachable j frames := by
  induction ahead with
  | nil =>
    -- one step leaves the directory
    refine ⟨1, by simp, fun j => ?_⟩
    rw [Nat.add_comm 1 j, advance_succ]
    rfl
  | cons x ahead ih =>
    obtain ⟨hx, hahead⟩ := List.forall_mem_cons.1 hahead
    obtain ⟨k, hk, hrest⟩ := ih hahead
    rw [List.length_cons, Nat.succ_mul]
    -- the entry is met, and what a step does then is what a visit does
    rcases t.meet_cases reachable links s (frames.map Frame.standing) x with ⟨fault, hmeet⟩ |
      hmeet | ⟨d, left, hmeet⟩
    · refine ⟨1, by omega, fun j => ?_⟩
      rw [Nat.add_comm 1 j, advance_succ, step, hmeet]
      change _ = (t.visit reachable links s (frames.map Frame.standing) x >>= fun _ => _) >>= _
      rw [visit, hmeet]
      rfl
    · refine ⟨k + 1, by omega, fun j => ?_⟩
      rw [Nat.add_right_comm, advance_succ, step, hmeet]
      change _ = (t.visit reachable links s (frames.map Frame.standing) x >>= fun _ => _) >>= _
      rw [visit, hmeet]
      simp only [bind_assoc, pure_bind, hrest]
    · -- the walk goes on below the directory and then comes back
      have hresult : (t.meet reachable links s (frames.map Frame.standing) x).result =
          .ok (some (d, left)) := by
        rw [hmeet]
        rfl
      have hlower := potential_lt_of_meet hx hresult
      obtain ⟨k', hk', hd⟩ := hbelow left ⟨d, s.trail ++ [x.1]⟩ (⟨s, links, ahead⟩ :: frames)
        (Nat.lt_of_lt_of_le hlower (Nat.le_of_lt_succ hm))
      refine ⟨k' + k + 1, by omega, fun j => ?_⟩
      rw [Nat.add_right_comm, advance_succ, step, hmeet, Nat.add_assoc]
      change _ = (t.visit reachable links s (frames.map Frame.standing) x >>= fun _ => _) >>= _
      rw [visit, hmeet]
      simp only [bind_assoc, pure_bind, hd, hrest, List.map_cons]

/-- **A walk below a directory ends**, and then goes on where it entered the directory. -/
theorem exists_advance_enter (t : Tree) (reachable : List Name → Bool) (m links : Nat)
    (s : Standing) (frames : List Frame) (hm : t.potential s (frames.map Frame.standing) < m) :
    ∃ k ≤ t.patience m, ∀ j, t.advance reachable (k + j) (t.enter links s.place s.trail :: frames) =
      t.walkBelow reachable links s.place s.trail (frames.map Frame.standing) >>= fun _ =>
        t.advance reachable j frames := by
  -- on what the potential is below; the directories that are entered have a lower one
  induction m generalizing links s frames with
  | zero => exact absurd hm (Nat.not_lt_zero _)
  | succ m ih =>
    obtain ⟨k, hk, hframe⟩ := exists_advance_frame (s := s) ih links frames hm fun x hx => hx
    refine ⟨k, hk.trans ?_, fun j => ?_⟩
    · have hmul := Nat.mul_le_mul_right (1 + t.patience m) (t.length_entriesOf_le s.place)
      rw [patience]
      omega
    · rw [walkBelow_eq_visits]
      exact hframe j

/-- **A walk has ended after so many steps**, and it has met what the walk by recursion meets. -/
theorem advance_enter (t : Tree) (reachable : List Name → Bool) (links : Nat) (l : Location)
    {k : Nat} (hk : t.walkBound ≤ k) : t.advance reachable k [t.enter links l []] = do
      t.walk reachable true l links
      return [] := by
  obtain ⟨k', hk', henter⟩ :=
    t.exists_advance_enter reachable (t.potentialBound + 1) links ⟨l, []⟩ []
    (Nat.lt_succ_of_le (t.potential_le _ _))
  obtain ⟨j, rfl⟩ := Nat.exists_eq_add_of_le (hk'.trans hk)
  rw [walk_true]
  refine (henter j).trans ?_
  rw [List.map_nil, advance_nil]

end Tree

end NativeBuild
