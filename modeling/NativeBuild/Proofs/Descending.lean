import NativeBuild.Proofs.Walking

/-!
# Walks by directories

A walk goes through the list of all that lies below a directory. The same walk can be told directory
by directory: what lies below a directory is, for each of its entries by name, the entry and then
what lies below that (`Tree.below_eq_flatMap`). So a walk visits the entries of a directory one
after another, and where it enters a directory it visits the entries of that one before it goes on
(`Tree.walkBelow_eq_visits`).

What a walk comes to at one entry is `Tree.meet`: it stops, or notes a file, or enters a directory.
The directories that it is in at that moment are given with it, the deepest first. They are what the
target of a link is compared with, and nothing else is: a directory that is entered by its own name
may be one that the walk is in already, when a link has led above it.
-/

namespace NativeBuild

/-- Going through a flattened list is going through its parts. -/
theorem Traced.forM_flatMap {ν ε α β : Type} (f : β → Traced ν ε Unit) (g : α → List β)
    (as : List α) :
    (as.flatMap g).forM f = as.forM fun a => (g a).forM f := by
  induction as with
  | nil => rfl
  | cons a as ih =>
    rw [List.flatMap_cons]
    change (g a ++ as.flatMap g).forM f = ((g a).forM f >>= fun _ => as.forM fun a => (g a).forM f)
    rw [← ih]
    exact List.forM_append

namespace Tree

variable {t : Tree} {reachable : List Name → Bool} {links left : Nat} {l : Location}
  {trail d : List Name} {n : Name} {e : Entry}

/-! ### The entries of a directory -/

/-- The **entries of a directory**, by their names in it. -/
def entriesOf (t : Tree) (l : Location) : List (Name × Entry) :=
  (t.below l).filterMap fun x =>
    match x.1 with
    | [n] => some (n, x.2)
    | _ => none

/-- The entries of a directory. -/
theorem mem_entriesOf_iff : (n, e) ∈ t.entriesOf l ↔ t.get? (l ++ [n]) = some e := by
  have hmem : (n, e) ∈ t.entriesOf l ↔ ([n], e) ∈ t.below l := by
    rw [entriesOf, List.mem_filterMap]
    constructor
    · rintro ⟨⟨k, e'⟩, hk, hsome⟩
      split at hsome
      · rename_i m hm
        obtain ⟨rfl, rfl⟩ := Prod.mk.inj (Option.some.inj hsome)
        obtain rfl : k = [m] := hm
        exact hk
      · simp at hsome
    · exact fun h => ⟨_, h, rfl⟩
  rw [hmem, mem_below_iff, and_iff_right (List.cons_ne_nil n [])]

/-- They are in order, which is that of their names. -/
theorem ascending_entriesOf (t : Tree) (l : Location) : Ascending Prod.fst (t.entriesOf l) := by
  refine List.Pairwise.filterMap _ (fun x y hxy x' hx y' hy => ?_) (t.ascending_below l)
  split at hx
  · rename_i n hn
    split at hy
    · rename_i m hm
      obtain rfl := Option.some.inj hx
      obtain rfl := Option.some.inj hy
      show n < m
      rw [hn, hm, List.cons_lt_cons_iff] at hxy
      rcases hxy with h | ⟨-, h⟩
      · exact h
      · exact absurd h (List.lt_irrefl _)
    · simp at hy
  · simp at hx

/-- There are no more of them than the tree has. -/
theorem length_entriesOf_le (t : Tree) (l : Location) : (t.entriesOf l).length ≤ t.entries.length :=
  (List.length_filterMap_le _ _).trans (List.length_filterMap_le _ _)

/-- Nothing lies below what is no directory. -/
theorem below_eq_nil (h : t.get? l = some e) (he : e ≠ .dir) : t.below l = [] := by
  rw [List.eq_nil_iff_forall_not_mem]
  rintro ⟨k, e'⟩ hk
  obtain ⟨hne, hget⟩ := mem_below_iff.1 hk
  have hdir : t.isDir l = true := isDir_above hget (List.prefix_append l k) (by simpa using hne)
  rw [isDir, h] at hdir
  exact he (Option.some.inj (of_decide_eq_true hdir))

/-- **What lies below a directory** lies in it or below one of its entries. -/
theorem below_eq_flatMap (t : Tree) (l : Location) : t.below l =
    (t.entriesOf l).flatMap fun x => ([x.1], x.2) :: (t.below (l ++ [x.1])).map fun y =>
      (x.1 :: y.1, y.2) := by
  -- both lists ascend, so what they hold decides
  refine (t.ascending_below l).eq_of_mem_iff ?_ ?_
  · refine List.pairwise_flatMap.2 ⟨fun x _ => ?_,
      (t.ascending_entriesOf l).imp fun {x y} hxy => ?_⟩
    · refine List.pairwise_cons.2 ⟨List.forall_mem_map.2 fun y hy => ?_, ?_⟩
      · obtain ⟨m, r, hm⟩ := List.exists_cons_of_ne_nil (mem_below_iff.1 hy).1
        rw [hm]
        exact List.cons_lt_cons_iff.2 (Or.inr ⟨rfl, List.nil_lt_cons m r⟩)
      · refine List.pairwise_map.2 ((t.ascending_below (l ++ [x.1])).imp fun {y z} hyz => ?_)
        exact List.cons_lt_cons_iff.2 (Or.inr ⟨rfl, hyz⟩)
    · -- the names of the entries decide, whatever follows
      have hlt : ∀ r s : List Name, x.1 :: r < y.1 :: s :=
        fun r s => List.cons_lt_cons_iff.2 (Or.inl hxy)
      simp only [List.forall_mem_cons, List.forall_mem_map]
      exact ⟨⟨hlt _ _, fun z _ => hlt _ _⟩, fun z _ => ⟨hlt _ _, fun w _ => hlt _ _⟩⟩
  · -- what is below is an entry of the directory, or below one
    rintro ⟨k, e⟩
    rw [mem_below_iff, List.mem_flatMap]
    constructor
    · rintro ⟨hk, hget⟩
      obtain ⟨n, r, rfl⟩ := List.exists_cons_of_ne_nil hk
      -- one name is the entry itself
      by_cases hr : r = []
      · subst hr
        exact ⟨(n, e), mem_entriesOf_iff.2 hget, List.mem_cons_self⟩
      · have hget' : t.get? (l ++ [n] ++ r) = some e := by rwa [List.append_assoc]
        have hdir : t.isDir (l ++ [n]) = true :=
          isDir_above hget' (List.prefix_append _ r) (by simpa using hr)
        refine ⟨(n, .dir), mem_entriesOf_iff.2 (of_decide_eq_true hdir), List.mem_cons_of_mem _ ?_⟩
        exact List.mem_map.2 ⟨(r, e), mem_below_iff.2 ⟨hr, hget'⟩, rfl⟩
    · rintro ⟨⟨n, e'⟩, hn, hk⟩
      rcases List.mem_cons.1 hk with heq | hk
      · obtain ⟨rfl, rfl⟩ := Prod.mk.inj heq
        exact ⟨List.cons_ne_nil n [], mem_entriesOf_iff.1 hn⟩
      · obtain ⟨⟨r, e''⟩, hr, heq⟩ := List.mem_map.1 hk
        obtain ⟨rfl, rfl⟩ := Prod.mk.inj heq
        refine ⟨List.cons_ne_nil n r, ?_⟩
        have hget := (mem_below_iff.1 hr).2
        rwa [List.append_assoc] at hget

/-! ### What a walk comes to -/

/-- **What a walk comes to at one entry** of the directory that it is in at `s`, when it is in those
of `outer` as well: it stops, or it notes a file, or it goes on in a directory, with so many links
left. -/
def meet (t : Tree) (reachable : List Name → Bool) (links : Nat) (s : Standing)
    (outer : List Standing) (x : Name × Entry) : Walked (Option (Location × Nat)) :=
  let names := s.trail ++ [x.1]
  match x.2 with
  | .file _ _ => do
    Traced.note names
    return none
  | .dir => if reachable names then pure (some (s.place ++ [x.1], links))
    else Traced.fail (.broken names .nameTooLong)
  | .link target =>
    if reachable names then
      match t.throughLink links s.place target with
      | .error e => Traced.fail (.broken names e)
      | .ok (there, left) =>
        if t.isDir there then
          match (s :: outer).find? (·.place = there) with
          | some a => Traced.fail (.loop names a.trail)
          | none => pure (some (there, left))
        else do
          Traced.note names
          return none
    else Traced.fail (.broken names .nameTooLong)

/-- What a walk does at one entry: where it comes to a directory, it walks below that. -/
def visit (t : Tree) (reachable : List Name → Bool) (links : Nat) (s : Standing)
    (outer : List Standing) (x : Name × Entry) : Walked Unit := do
  match ← t.meet reachable links s outer x with
  | none => return ()
  | some (d, left) => t.walkBelow reachable left d (s.trail ++ [x.1]) (s :: outer)

/-- No names lead no further than where one stands. -/
theorem standings_nil (l : Location) (trail : List Name) : standings l trail [] = [⟨l, trail⟩] := by
  simp [standings]

/-- The directories on the way down, with the first one last. -/
theorem standings_cons (l : Location) (trail : List Name) (n : Name) (d : List Name) :
    standings l trail (n :: d) = standings (l ++ [n]) (trail ++ [n]) d ++ [⟨l, trail⟩] := by
  rw [standings, List.length_cons, List.range_succ_eq_map, List.map_cons, List.reverse_cons,
    List.map_map, standings]
  simp only [List.take_zero, List.append_nil, Function.comp_def, List.take_succ_cons,
    List.append_assoc, List.singleton_append, Nat.succ_eq_add_one]

/-- What lies below an entry belongs to the walk below the entry. -/
theorem walkEntry_cons (outer : List Standing) {k : List Name} (hk : k ≠ []) :
    t.walkEntry reachable links l trail outer (n :: k, e) =
      t.walkEntry reachable links (l ++ [n]) (trail ++ [n]) (⟨l, trail⟩ :: outer) (k, e) := by
  have hstandings : standings l trail (n :: k).dropLast ++ outer =
      standings (l ++ [n]) (trail ++ [n]) k.dropLast ++ ⟨l, trail⟩ :: outer := by
    rw [List.dropLast_cons_of_ne_nil hk, standings_cons, List.append_assoc, List.singleton_append]
  have htrail : trail ++ n :: k = trail ++ [n] ++ k := by
    rw [List.append_assoc, List.singleton_append]
  have hplace : l ++ (n :: k).dropLast = l ++ [n] ++ k.dropLast := by
    rw [List.dropLast_cons_of_ne_nil hk, List.append_assoc, List.singleton_append]
  rw [walkEntry, walkEntry]
  dsimp only
  rw [hstandings, htrail, hplace]

/-- **A walk visits the entries** of its directory. -/
theorem walkBelow_eq_visits (t : Tree) (reachable : List Name → Bool) (links : Nat) (l : Location)
    (trail : List Name) (outer : List Standing) : t.walkBelow reachable links l trail outer =
      (t.entriesOf l).forM (t.visit reachable links ⟨l, trail⟩ outer) := by
  rw [walkBelow_eq, below_eq_flatMap, Traced.forM_flatMap]
  refine Traced.forM_congr fun x hx => ?_
  obtain ⟨n, e⟩ := x
  have hget := mem_entriesOf_iff.1 hx
  change (t.walkEntry reachable links l trail outer ([n], e) >>= fun _ =>
    ((t.below (l ++ [n])).map fun y => (n :: y.1, y.2)).forM
      (t.walkEntry reachable links l trail outer)) = _
  cases e with
  | file content mode =>
    -- there is nothing below a file, and its visit notes it
    rw [below_eq_nil hget (by simp)]
    rfl
  | dir =>
    -- what follows the entry itself is the walk below it
    have hbelow :
        ((t.below (l ++ [n])).map fun y => (n :: y.1, y.2)).forM
        (t.walkEntry reachable links l trail outer) =
        t.walkBelow reachable links (l ++ [n]) (trail ++ [n]) (⟨l, trail⟩ :: outer) := by
      rw [walkBelow_eq]
      refine List.forM_map.trans (Traced.forM_congr fun y hy => ?_)
      exact walkEntry_cons outer (mem_below_iff.1 hy).1
    rw [hbelow, visit, meet, walkEntry]
    dsimp only
    split <;> rfl
  | link target =>
    -- nor is there below a link; behind one the walk begins anew
    rw [below_eq_nil hget (by simp), visit, meet, walkEntry]
    simp only [List.dropLast_singleton, standings_nil, List.append_nil, List.singleton_append]
    split
    · cases t.throughLink links l target with
      | error fault => rfl
      | ok a =>
        obtain ⟨there, left⟩ := a
        dsimp only
        split
        · cases (⟨l, trail⟩ :: outer : List Standing).find? (·.place = there) with
          | some a => rfl
          | none => exact bind_pure_unit
        · rfl
    · rfl

end Tree

end NativeBuild
