import NativeBuild.Proofs.Following
import NativeBuild.Proofs.Success
import Mathlib.Data.List.Basic
import Mathlib.Data.List.Nodup

/-!
# What a walk meets

A walk below a directory meets the files to which names lead from there, and no other: whatever it
notes leads to a file (`fileAt_of_mem_notes_walk`), and if it comes to its end, then it has noted
whatever leads to a file (`mem_notes_walk_of_fileAt`). It notes nothing twice (`nodup_notes_walk`).

Names that lead to a file do so through directories below the one that the walk is in, until a file
of that name is met or a link. So the proofs follow the walk: one part for each entry below the
directory, and at a link to a directory the walk from there, with fewer links left. Nothing lies
below a file or a link, which is why what is met at one entry is not met at another.

Without links it does not matter whether a walk follows them (`walk_of_noLinks`), and then it comes
to its end if every directory can be entered (`result_walk_of_reachable`), and only then
(`reachable_of_result_walk`).
-/

namespace NativeBuild

/-! ### Going through a list -/

namespace Traced

variable {ν ε α : Type} {f : α → Traced ν ε Unit} {as : List α}

theorem result_forM_cons_eq_ok_iff {a : α} : ((a :: as).forM f).result = .ok () ↔
    (f a).result = .ok () ∧ (as.forM f).result = .ok () :=
  result_bind_unit_eq_ok_iff (f := fun _ => as.forM f)

/-- The elements are taken up to the first that fails, which leaves its notes behind. -/
theorem notes_forM_cons (f : α → Traced ν ε Unit) (a : α) (as : List α) :
    ((a :: as).forM f).notes = (f a).notes ++ match (f a).result with
      | .ok _ => (as.forM f).notes
      | .error _ => [] := by
  change (f a >>= fun _ => as.forM f).notes = _
  rw [notes_bind]
  cases (f a).result <;> rfl

theorem forM_congr {g : α → Traced ν ε Unit} (h : ∀ a ∈ as, f a = g a) : as.forM f = as.forM g := by
  induction as with
  | nil => rfl
  | cons a as ih =>
    rw [List.forall_mem_cons] at h
    change (f a >>= fun _ => as.forM f) = (g a >>= fun _ => as.forM g)
    rw [h.1, ih h.2]

theorem result_of_result_forM (h : (as.forM f).result = .ok ()) {a : α} (ha : a ∈ as) :
    (f a).result = .ok () := by
  induction as with
  | nil => exact absurd ha List.not_mem_nil
  | cons b as ih =>
    rw [result_forM_cons_eq_ok_iff] at h
    rcases List.mem_cons.1 ha with rfl | ha
    · exact h.1
    · exact ih h.2 ha

/-- What is noted has been noted for one of the elements. -/
theorem exists_mem_notes_of_forM {n : ν} (h : n ∈ (as.forM f).notes) :
    ∃ a ∈ as, n ∈ (f a).notes := by
  induction as with
  | nil => exact absurd h List.not_mem_nil
  | cons b as ih =>
    rw [notes_forM_cons, List.mem_append] at h
    rcases h with h | h
    · exact ⟨b, List.mem_cons_self, h⟩
    · split at h
      · obtain ⟨a, ha, hn⟩ := ih h
        exact ⟨a, List.mem_cons_of_mem b ha, hn⟩
      · exact absurd h List.not_mem_nil

/-- When all goes well, no element is passed over. -/
theorem mem_notes_forM (h : (as.forM f).result = .ok ()) {a : α} (ha : a ∈ as) {n : ν}
    (hn : n ∈ (f a).notes) : n ∈ (as.forM f).notes := by
  induction as with
  | nil => exact absurd ha List.not_mem_nil
  | cons b as ih =>
    rw [result_forM_cons_eq_ok_iff] at h
    rw [notes_forM_cons, h.1, List.mem_append]
    rcases List.mem_cons.1 ha with rfl | ha
    · exact Or.inl hn
    · exact Or.inr (ih h.2 ha)

/-- Nothing is noted twice if no part notes anything twice and no two parts note the same. -/
theorem nodup_notes_forM (h : ∀ a ∈ as, (f a).notes.Nodup)
    (hd : as.Pairwise fun a b => List.Disjoint (f a).notes (f b).notes) :
    (as.forM f).notes.Nodup := by
  -- on the elements: the first notes nothing twice, nor anything that the others note
  induction as with
  | nil => exact List.nodup_nil
  | cons a as ih =>
    rw [List.forall_mem_cons] at h
    rw [List.pairwise_cons] at hd
    rw [notes_forM_cons]
    split
    · refine List.nodup_append'.2 ⟨h.1, ih h.2 hd.2, fun n hn hn' => ?_⟩
      obtain ⟨b, hb, hnb⟩ := exists_mem_notes_of_forM hn'
      exact hd.1 b hb hn hnb
    · rw [List.append_nil]
      exact h.1

end Traced

/-- Of lists that begin alike the rest decides which comes first. -/
theorem append_lt_append_iff {α : Type} [LT α] [Std.Irrefl (α := α) (· < ·)] {l k k' : List α} :
    l ++ k < l ++ k' ↔ k < k' := by
  refine ⟨fun h => ?_, List.append_left_lt⟩
  induction l with
  | nil => exact h
  | cons a l ih =>
    rw [List.cons_append, List.cons_append, List.cons_lt_cons_iff] at h
    rcases h with hlt | ⟨-, hlt⟩
    · exact absurd hlt (Std.Irrefl.irrefl a)
    · exact ih hlt

namespace Tree

variable {t : Tree} {reachable : List Name → Bool} {followLinks : Bool} {links left : Nat}
  {l p : Location} {names : List Name}

/-! ### The entries below a directory -/

/-- What is below a place is all that there is there, by the names that lead on from it. -/
theorem mem_below_iff {k : List Name} {e : Entry} :
    (k, e) ∈ t.below l ↔ k ≠ [] ∧ t.get? (l ++ k) = some e := by
  -- locations with the place in front, and then no names but the ones behind
  have hmem : (k, e) ∈ t.below l ↔ k ≠ [] ∧ (l ++ k, e) ∈ t.entries := by
    simp only [below, List.mem_filterMap]
    constructor
    · rintro ⟨⟨m, e'⟩, hm, hsome⟩
      split at hsome
      · rename_i n r hcut
        obtain ⟨rfl, rfl⟩ := Prod.mk.inj (Option.some.inj hsome)
        rw [List.isPrefixOf?_eq_some_iff_append_eq] at hcut
        exact ⟨List.cons_ne_nil n r, hcut ▸ hm⟩
      · simp at hsome
    · rintro ⟨hk, hm⟩
      obtain ⟨n, r, rfl⟩ := List.exists_cons_of_ne_nil hk
      refine ⟨_, hm, ?_⟩
      rw [List.isPrefixOf?_eq_some_iff_append_eq.2 rfl]
  rw [hmem]
  exact and_congr_right fun hk => (get?_eq_some_iff (by simp [hk])).symm

/-- **The entries below a directory** are listed in the order of the names on the way to them. -/
theorem ascending_below (t : Tree) (l : Location) : Ascending Prod.fst (t.below l) := by
  refine List.Pairwise.filterMap _ (fun x y hxy x' hx y' hy => ?_) t.ascending
  split at hx
  · rename_i n r hcut
    split at hy
    · rename_i m s hcut'
      rw [List.isPrefixOf?_eq_some_iff_append_eq] at hcut hcut'
      obtain rfl := Option.some.inj hx
      obtain rfl := Option.some.inj hy
      -- what both locations begin with decides nothing
      show n :: r < m :: s
      rw [← hcut, ← hcut'] at hxy
      exact append_lt_append_iff.1 hxy
    · simp at hy
  · simp at hx

/-- Each entry below a directory is listed once. -/
theorem pairwise_below (t : Tree) (l : Location) : (t.below l).Pairwise fun x y => x.1 ≠ y.1 :=
  (t.ascending_below l).imp fun {x y} hlt => by
    intro he
    rw [he] at hlt
    exact List.lt_irrefl _ hlt

/-- Nothing lies below what is no directory, so what is found there begins no other name. -/
theorem not_prefix_of_mem_below {x y : List Name × Entry} (hx : x ∈ t.below l) (hy : y ∈ t.below l)
    (hne : x.1 ≠ y.1) (hdir : x.2 ≠ .dir) : ¬ x.1 <+: y.1 := by
  intro hpre
  have hgx := (mem_below_iff.1 hx).2
  have hgy := (mem_below_iff.1 hy).2
  have habove : t.isDir (l ++ x.1) = true :=
    isDir_above hgy ((List.prefix_append_right_inj l).2 hpre)
    fun he => hne (List.append_cancel_left he)
  rw [isDir, hgx] at habove
  exact hdir (Option.some.inj (decide_eq_true_iff.1 habove))

/-! ### Names that lead to a file -/

/-- Names lead **to a file** from a directory; if links are not followed, then they lie below it. -/
def FileAt (t : Tree) (followLinks : Bool) (links : Nat) (l : Location)
    (names : List Name) : Prop :=
  ∃ p left content mode, t.Leads links l names p left ∧ t.get? p = some (.file content mode) ∧
    (followLinks = false → p = l ++ names)

/-- Names go on only from a directory, so what is none is where they end. -/
theorem eq_nil_of_leads (h : t.Leads links l names p left) (hdir : t.isDir l = false) :
    names = [] := by
  cases names with
  | nil => rfl
  | cons n names =>
    obtain ⟨q, k, hn, -⟩ := leads_cons_iff.1 h
    exact absurd (leads_singleton_iff.1 hn).1 (by simp [hdir])

/-- **The way to a file** goes through directories below the first, as far as to an entry that is
none. -/
theorem exists_of_leads {content : Bytes} {mode : Nat} (h : t.Leads links l names p left)
    (hdir : t.isDir l = true) (hp : t.get? p = some (.file content mode)) :
    ∃ d n rest e, names = d ++ [n] ++ rest ∧ t.get? (l ++ (d ++ [n])) = some e ∧ e ≠ .dir := by
  -- on the names: directories are passed as far as they go, and what comes first behind them ends
  -- or leaves the tree
  induction names generalizing l links with
  | nil =>
    obtain ⟨rfl, -⟩ := leads_nil_iff.1 h
    rw [isDir, hp] at hdir
    simp at hdir
  | cons n names ih =>
    obtain ⟨q, k, hn, hrest⟩ := leads_cons_iff.1 h
    obtain ⟨-, ⟨e, hget, hnot, rfl, rfl⟩ | ⟨target, hget, -⟩⟩ := leads_singleton_iff.1 hn
    · by_cases he : e = .dir
      · -- one directory further down
        subst he
        obtain ⟨d, m, rest, e, rfl, hd, hne⟩ := ih hrest (decide_eq_true hget)
        exact ⟨n :: d, m, rest, e, rfl, by simpa using hd, hne⟩
      · exact ⟨[], n, names, e, rfl, hget, he⟩
    · exact ⟨[], n, names, .link target, rfl, hget, by simp⟩

theorem isDir_dropLast (h : t.isDir l = true) : t.isDir l.dropLast = true := by
  by_cases hl : l = []
  · rwa [hl, List.dropLast_nil, ← hl]
  · rw [← List.dropLast_concat_getLast hl] at h
    exact isDir_of_get?_concat (decide_eq_true_iff.1 h)

/-- Following all links ends at what is no link. -/
theorem get?_of_follow {steps : List Path.Step} {e : Entry}
    (h : t.follow true links l steps = .ok ⟨.occupied p, left⟩) (hl : t.get? l = some e)
    (hnot : ∀ target, e ≠ .link target) : ∃ e, t.get? p = some e ∧ ∀ target, e ≠ .link target := by
  fun_induction Tree.follow t true links l steps generalizing e with
  | case1 =>
    simp only [Except.ok.injEq, Arrival.mk.injEq, Place.occupied.injEq] at h
    exact ⟨e, h.1 ▸ hl, hnot⟩
  | case2 links l rest hdir ih => exact ih h hl hnot
  | case3 links l rest hdir ih =>
    -- above a directory there is one
    refine ih h (e := .dir) (decide_eq_true_iff.1 (isDir_dropLast hdir)) (by simp)
  | case10 l rest hdir b n hb target hget _ links hempty ih =>
    -- a link is gone on from at the top or where it lies
    refine ih h (e := .dir) ?_ (by simp)
    split
    · exact t.get?_nil
    · exact decide_eq_true_iff.1 hdir
  | case11 links l rest hdir b n hb e hlink hget ih => exact ih h hget hlink
  | _ => simp_all

/-- A link that leads to no directory leads to a file. -/
theorem get?_of_throughLink {target : Path} {d : Location}
    (h : t.throughLink links d target = .ok (p, left)) (hd : t.isDir d = true)
    (hp : t.isDir p = false) :
    ∃ content mode, t.get? p = some (.file content mode) := by
  -- following a link ends at an entry that is no link
  have hend : ∃ e, t.get? p = some e ∧ ∀ target, e ≠ .link target := by
    unfold throughLink at h
    split at h
    · simp at h
    · split at h
      · simp at h
      · split at h
        · rename_i hf
          obtain ⟨rfl, rfl⟩ := Prod.mk.inj (Except.ok.inj h)
          refine get?_of_follow hf (e := .dir) ?_ (by simp)
          split
          · exact t.get?_nil
          · exact decide_eq_true_iff.1 hd
        · simp at h
        · simp at h
  obtain ⟨e, hget, hnot⟩ := hend
  cases e with
  | file content mode => exact ⟨content, mode, hget⟩
  | link target => exact absurd rfl (hnot target)
  | dir => simp [isDir, hget] at hp

/-! ### Walks that follow links -/

/-- The part of a walk that belongs to one entry below the directory. -/
def walkEntry (t : Tree) (reachable : List Name → Bool) (links : Nat) (l : Location)
    (trail : List Name) (outer : List Standing) (x : List Name × Entry) : Walked Unit :=
  match x.2 with
  | .file _ _ => Traced.note (trail ++ x.1)
  | .dir => if reachable (trail ++ x.1) then pure ()
    else Traced.fail (.broken (trail ++ x.1) .nameTooLong)
  | .link target =>
    let inside := standings l trail x.1.dropLast ++ outer
    let link := trail ++ x.1
    if reachable link then
      match t.throughLink links (l ++ x.1.dropLast) target with
      | .error e => Traced.fail (.broken link e)
      | .ok (there, left) =>
        if t.isDir there then
          match inside.find? (·.place = there) with
          | some s => Traced.fail (.loop link s.trail)
          | none => t.walkBelow reachable left there link inside
        else Traced.note link
    else Traced.fail (.broken link .nameTooLong)

/-- The walk is the same over every entry that is below. -/
theorem walkBelow_eq (t : Tree) (reachable : List Name → Bool) (links : Nat) (l : Location)
    (trail : List Name) (outer : List Standing) : t.walkBelow reachable links l trail outer =
      (t.below l).forM (t.walkEntry reachable links l trail outer) := by
  rw [walkBelow]
  refine congrArg (fun f => (t.below l).forM f) (funext fun x => ?_)
  obtain ⟨k, e⟩ := x
  cases e with
  | file content mode => rfl
  | dir => rfl
  | link target =>
    rw [walkEntry]
    dsimp only
    split
    · cases t.throughLink links (l ++ k.dropLast) target with
      | error e => rfl
      | ok a => rfl
    · rfl

/-- **What the part of one entry can be**: it fails, it passes a directory, it notes an entry that
leads to a file, or it walks the directory where a link leads. -/
theorem walkEntry_cases {trail d : List Name} {n : Name} {e : Entry} {outer : List Standing}
    {part : Walked Unit} (hget : t.get? (l ++ (d ++ [n])) = some e)
    (hpart : t.walkEntry reachable links l trail outer (d ++ [n], e) = part) :
    (∃ fault, part = Traced.fail fault) ∨ e = .dir ∧ part = pure () ∨
      e ≠ .dir ∧ t.FileAt true links l (d ++ [n]) ∧ part = Traced.note (trail ++ (d ++ [n])) ∨
      e ≠ .dir ∧ ∃ there left inside, left < links ∧ t.Leads links l (d ++ [n]) there left ∧
        t.isDir there = true ∧
        part = t.walkBelow reachable left there (trail ++ (d ++ [n])) inside := by
  have hdir : t.isDir (l ++ d) = true := by
    rw [← List.append_assoc] at hget
    exact isDir_of_get?_concat hget
  subst hpart
  rw [← List.append_assoc] at hget
  cases e with
  | file content mode =>
    -- a file is where its own names lead
    refine Or.inr (Or.inr (Or.inl ⟨by simp, ⟨_, links, content, mode, ?_, hget, by simp⟩, rfl⟩))
    refine leads_append_of_isDir hdir ?_
    exact leads_singleton_iff.2 ⟨hdir, Or.inl ⟨_, hget, by simp, rfl, rfl⟩⟩
  | dir =>
    -- what a directory holds is below as well, so nothing is left to do for it
    rw [walkEntry]
    dsimp only
    split
    · exact Or.inr (Or.inl ⟨rfl, rfl⟩)
    · exact Or.inl ⟨_, rfl⟩
  | link target =>
    -- a link fails, leads to a directory that is walked in turn, or to a file
    rw [walkEntry]
    dsimp only
    rw [List.dropLast_concat]
    split
    · cases hthrough : t.throughLink links (l ++ d) target with
      | error e => exact Or.inl ⟨_, rfl⟩
      | ok a =>
        obtain ⟨there, left⟩ := a
        have hthere := leads_append_of_isDir hdir
          (leads_singleton_iff.2 ⟨hdir, Or.inr ⟨target, hget, hthrough⟩⟩)
        dsimp only
        split
        · rename_i hd
          split
          · exact Or.inl ⟨_, rfl⟩
          · exact Or.inr (Or.inr (Or.inr ⟨by simp, there, left, _, links_lt_of_throughLink hthrough,
              hthere, hd, rfl⟩))
        · rename_i hd
          obtain ⟨content, mode, hfile⟩ :=
            get?_of_throughLink hthrough hdir (Bool.eq_false_iff.2 hd)
          exact Or.inr (Or.inr (Or.inl
            ⟨by simp, ⟨there, left, content, mode, hthere, hfile, by simp⟩, rfl⟩))
    · exact Or.inl ⟨_, rfl⟩

/-- **What a walk notes leads to a file.** -/
theorem fileAt_of_mem_notes_walkBelow {trail : List Name} {outer : List Standing}
    (h : names ∈ (t.walkBelow reachable links l trail outer).notes) :
    ∃ ns, names = trail ++ ns ∧ t.FileAt true links l ns := by
  -- on the links that may still be gone through, since every walk behind a link has fewer
  induction links using Nat.strong_induction_on generalizing l trail outer with
  | _ links ih =>
    rw [walkBelow_eq] at h
    obtain ⟨⟨k, e⟩, hx, hn⟩ := Traced.exists_mem_notes_of_forM h
    obtain ⟨hk, hget⟩ := mem_below_iff.1 hx
    obtain ⟨d, n, rfl⟩ : ∃ d n, k = d ++ [n] := ⟨_, _, (List.dropLast_concat_getLast hk).symm⟩
    generalize hpart : t.walkEntry reachable links l trail outer (d ++ [n], e) = part at hn
    rcases walkEntry_cases hget hpart with ⟨fault, rfl⟩ | ⟨-, rfl⟩ | ⟨-, hfile, rfl⟩ |
      ⟨-, there, left, inside, hlt, hthere, -, rfl⟩
    · simp at hn
    · simp at hn
    · rw [Traced.notes_note, List.mem_singleton] at hn
      exact ⟨d ++ [n], hn, hfile⟩
    · -- the way to the link, and from where it leads the rest
      obtain ⟨ns, rfl, p, left', content, mode, hns, hget', -⟩ := ih left hlt hn
      refine ⟨d ++ [n] ++ ns, by simp, p, left', content, mode, ?_, hget', by simp⟩
      exact leads_append_iff.2 ⟨there, left, hthere, hns⟩

/-- **What leads to a file is noted**, if the walk comes to its end. -/
theorem mem_notes_walkBelow_of_fileAt {trail : List Name} {outer : List Standing} {ns : List Name}
    (h : (t.walkBelow reachable links l trail outer).result = .ok ()) (hdir : t.isDir l = true)
    (hfile : t.FileAt true links l ns) :
    trail ++ ns ∈ (t.walkBelow reachable links l trail outer).notes := by
  -- again on the links; the way to the file stops being directories at some entry, and the walk
  -- comes by it
  induction links using Nat.strong_induction_on generalizing l trail outer ns with
  | _ links ih =>
    obtain ⟨p, left, content, mode, hns, hp, -⟩ := hfile
    obtain ⟨d, n, rest, e, rfl, hget, he⟩ := exists_of_leads hns hdir hp
    obtain ⟨q, k, hq, hrest⟩ := leads_append_iff.1 hns
    rw [walkBelow_eq] at h ⊢
    have hx : (d ++ [n], e) ∈ t.below l := mem_below_iff.2 ⟨by simp, hget⟩
    refine Traced.mem_notes_forM h hx ?_
    have hok := Traced.result_of_result_forM h hx
    generalize hpart : t.walkEntry reachable links l trail outer (d ++ [n], e) = part at hok ⊢
    rcases walkEntry_cases hget hpart with ⟨fault, rfl⟩ | ⟨rfl, -⟩ | ⟨-, hfile, rfl⟩ |
      ⟨-, there, left', inside, hlt, hthere, hd, rfl⟩
    · simp at hok
    · exact absurd rfl he
    · -- nothing leads on from a file
      obtain ⟨q', k', content', mode', hq', hget', -⟩ := hfile
      obtain ⟨rfl, rfl⟩ := hq.eq hq'
      have hnodir : t.isDir q = false := by simp [isDir, hget']
      rw [eq_nil_of_leads hrest hnodir, List.append_nil]
      exact List.mem_singleton.2 rfl
    · obtain ⟨rfl, rfl⟩ := hq.eq hthere
      have hmem := ih k hlt hok hd ⟨p, left, content, mode, hrest, hp, by simp⟩
      rwa [List.append_assoc] at hmem

/-- What the part of an entry notes lies at or below the entry, which is no directory. -/
theorem prefix_of_mem_notes_walkEntry {trail : List Name} {outer : List Standing}
    {x : List Name × Entry} (hx : x ∈ t.below l)
    (h : names ∈ (t.walkEntry reachable links l trail outer x).notes) :
    trail ++ x.1 <+: names ∧ x.2 ≠ .dir := by
  obtain ⟨k, e⟩ := x
  obtain ⟨hk, hget⟩ := mem_below_iff.1 hx
  obtain ⟨d, n, rfl⟩ : ∃ d n, k = d ++ [n] := ⟨_, _, (List.dropLast_concat_getLast hk).symm⟩
  generalize hpart : t.walkEntry reachable links l trail outer (d ++ [n], e) = part at h
  -- a failure and a directory note nothing; a file notes its own name
  rcases walkEntry_cases hget hpart with ⟨fault, rfl⟩ | ⟨-, rfl⟩ | ⟨he, -, rfl⟩ |
    ⟨he, there, left, inside, -, -, -, rfl⟩
  · simp at h
  · simp at h
  · rw [Traced.notes_note, List.mem_singleton] at h
    exact ⟨h ▸ List.prefix_refl _, he⟩
  · obtain ⟨ns, rfl, -⟩ := fileAt_of_mem_notes_walkBelow h
    exact ⟨List.prefix_append _ _, he⟩

/-- **Nothing is noted twice.** -/
theorem nodup_notes_walkBelow (trail : List Name) (outer : List Standing) :
    (t.walkBelow reachable links l trail outer).notes.Nodup := by
  induction links using Nat.strong_induction_on generalizing l trail outer with
  | _ links ih =>
    rw [walkBelow_eq]
    -- nothing twice behind one entry, and nothing behind two of them
    refine Traced.nodup_notes_forM (fun x hx => ?_) ?_
    · obtain ⟨k, e⟩ := x
      obtain ⟨hk, hget⟩ := mem_below_iff.1 hx
      obtain ⟨d, n, rfl⟩ : ∃ d n, k = d ++ [n] := ⟨_, _, (List.dropLast_concat_getLast hk).symm⟩
      generalize hpart : t.walkEntry reachable links l trail outer (d ++ [n], e) = part
      rcases walkEntry_cases hget hpart with ⟨fault, rfl⟩ | ⟨-, rfl⟩ | ⟨-, -, rfl⟩ |
        ⟨-, there, left, inside, hlt, -, -, rfl⟩
      · exact List.nodup_nil
      · exact List.nodup_nil
      · exact List.nodup_singleton _
      · exact ih left hlt _ _
    · -- what two parts note would begin with the names of both entries
      refine (t.pairwise_below l).imp_of_mem fun {x y} hx hy hne names hnx hny => ?_
      obtain ⟨hpx, hex⟩ := prefix_of_mem_notes_walkEntry hx hnx
      obtain ⟨hpy, hey⟩ := prefix_of_mem_notes_walkEntry hy hny
      rcases List.prefix_or_prefix_of_prefix hpx hpy with hxy | hyx
      · exact not_prefix_of_mem_below hx hy hne hex ((List.prefix_append_right_inj trail).1 hxy)
      · exact not_prefix_of_mem_below hy hx (Ne.symm hne) hey
          ((List.prefix_append_right_inj trail).1 hyx)

/-! ### Walks -/

/-- What a walk that follows no links does at one entry. -/
def passEntry (reachable : List Name → Bool) (x : List Name × Entry) : Walked Unit :=
  match x.2 with
  | .file _ _ => Traced.note x.1
  | .dir => if reachable x.1 then pure () else Traced.fail (.broken x.1 .nameTooLong)
  | .link _ => pure ()

theorem walk_true (t : Tree) (reachable : List Name → Bool) (l : Location) (links : Nat) :
    t.walk reachable true l links = t.walkBelow reachable links l [] [] := by
  rw [walk, if_pos rfl]

theorem walk_false (t : Tree) (reachable : List Name → Bool) (l : Location) (links : Nat) :
    t.walk reachable false l links = (t.below l).forM (passEntry reachable) := by
  rw [walk, if_neg Bool.false_ne_true]
  rfl

theorem mem_notes_passEntry_iff {x : List Name × Entry} : names ∈ (passEntry reachable x).notes ↔
    x.1 = names ∧ ∃ content mode, x.2 = .file content mode := by
  obtain ⟨k, e⟩ := x
  rw [passEntry]
  cases e with
  | file content mode => simp [eq_comm]
  | dir =>
    dsimp only
    split <;> simp
  | link target => simp

/-- **What a walk notes leads to a file**, from the directory that it is in. -/
theorem fileAt_of_mem_notes_walk (h : names ∈ (t.walk reachable followLinks l links).notes) :
    t.FileAt followLinks links l names := by
  cases followLinks with
  | true =>
    -- links are followed
    rw [walk_true] at h
    obtain ⟨ns, rfl, hfile⟩ := fileAt_of_mem_notes_walkBelow h
    exact hfile
  | false =>
    rw [walk_false] at h
    -- otherwise what is noted is a file of the tree, where its names put it
    obtain ⟨⟨k, e⟩, hx, hn⟩ := Traced.exists_mem_notes_of_forM h
    obtain ⟨rfl, content, mode, rfl⟩ := mem_notes_passEntry_iff.1 hn
    obtain ⟨hk, hget⟩ := mem_below_iff.1 hx
    refine ⟨_, links, content, mode, ?_, hget, fun _ => rfl⟩
    obtain ⟨d, n, rfl⟩ : ∃ d n, k = d ++ [n] := ⟨_, _, (List.dropLast_concat_getLast hk).symm⟩
    rw [← List.append_assoc] at hget ⊢
    have hdir := isDir_of_get?_concat hget
    exact leads_append_of_isDir hdir
      (leads_singleton_iff.2 ⟨hdir, Or.inl ⟨_, hget, by simp, rfl, rfl⟩⟩)

/-- **What leads to a file is noted**, if the walk comes to its end. -/
theorem mem_notes_walk_of_fileAt (h : (t.walk reachable followLinks l links).result = .ok ())
    (hdir : t.isDir l = true) (hfile : t.FileAt followLinks links l names) :
    names ∈ (t.walk reachable followLinks l links).notes := by
  cases followLinks with
  | true =>
    rw [walk_true] at h ⊢
    exact mem_notes_walkBelow_of_fileAt h hdir hfile
  | false =>
    rw [walk_false] at h ⊢
    obtain ⟨p, left, content, mode, -, hget, hplace⟩ := hfile
    obtain rfl := hplace rfl
    -- the file is not the directory that the walk is of
    have hne : names ≠ [] := by
      rintro rfl
      rw [List.append_nil] at hget
      simp [isDir, hget] at hdir
    refine Traced.mem_notes_forM h (mem_below_iff.2 ⟨hne, hget⟩) ?_
    exact mem_notes_passEntry_iff.2 ⟨rfl, content, mode, rfl⟩

/-- **A walk notes nothing twice.** -/
theorem nodup_notes_walk : (t.walk reachable followLinks l links).notes.Nodup := by
  cases followLinks with
  | true =>
    rw [walk_true]
    exact nodup_notes_walkBelow _ _
  | false =>
    rw [walk_false]
    refine Traced.nodup_notes_forM (fun x _ => ?_)
      ((t.pairwise_below l).imp fun hne names hx hy => ?_)
    · obtain ⟨k, e⟩ := x
      rw [passEntry]
      cases e with
      | file content mode => exact List.nodup_singleton k
      | dir =>
        dsimp only
        split <;> exact List.nodup_nil
      | link target => exact List.nodup_nil
    · -- what is noted are the names of the entry, and these differ
      exact hne ((mem_notes_passEntry_iff.1 hx).1.trans (mem_notes_passEntry_iff.1 hy).1.symm)

/-! ### Trees without links -/

/-- A tree **without links**. -/
def NoLinks (t : Tree) : Prop := ∀ l target, t.get? l ≠ some (.link target)

/-- Without links names lead down, and nowhere else. -/
theorem eq_append_of_leads (h : t.NoLinks) (hleads : t.Leads links l names p left) :
    p = l ++ names := by
  induction names generalizing l links with
  | nil => rw [(leads_nil_iff.1 hleads).1, List.append_nil]
  | cons n names ih =>
    obtain ⟨q, k, hn, hrest⟩ := leads_cons_iff.1 hleads
    obtain ⟨-, ⟨-, -, -, rfl, -⟩ | ⟨target, hget, -⟩⟩ := leads_singleton_iff.1 hn
    · rw [ih hrest, List.append_assoc, List.singleton_append]
    · exact absurd hget (h _ target)

/-- Without links names lead to a file if one lies there. -/
theorem fileAt_iff_of_noLinks (h : t.NoLinks) : t.FileAt followLinks links l names ↔
    ∃ content mode, t.get? (l ++ names) = some (.file content mode) := by
  constructor
  · rintro ⟨p, left, content, mode, hleads, hget, -⟩
    rw [eq_append_of_leads h hleads] at hget
    exact ⟨content, mode, hget⟩
  · rintro ⟨content, mode, hget⟩
    refine ⟨l ++ names, links, content, mode, ?_, hget, fun _ => rfl⟩
    -- without names the file would be where the walk begins
    by_cases hne : names = []
    · subst hne
      exact leads_nil_iff.2 ⟨List.append_nil l, rfl⟩
    · rw [← List.dropLast_concat_getLast hne] at hget ⊢
      rw [← List.append_assoc] at hget ⊢
      have hdir := isDir_of_get?_concat hget
      exact leads_append_of_isDir hdir
        (leads_singleton_iff.2 ⟨hdir, Or.inl ⟨_, hget, by simp, rfl, rfl⟩⟩)

/-- Without links it does not matter whether they are followed. -/
theorem walk_of_noLinks (h : t.NoLinks) :
    t.walk reachable followLinks l links = t.walk reachable false l links := by
  cases followLinks with
  | false => rfl
  | true =>
    rw [walk_true, walk_false, walkBelow_eq]
    refine Traced.forM_congr fun x hx => ?_
    obtain ⟨k, e⟩ := x
    cases e with
    | file content mode => rfl
    | dir => rfl
    | link target => exact absurd (mem_below_iff.1 hx).2 (h _ target)

/-- A walk comes to its end if it can enter every directory. -/
theorem result_walk_of_reachable (h : t.NoLinks)
    (hdirs : ∀ d, d ≠ [] → t.isDir (l ++ d) = true → reachable d = true) :
    (t.walk reachable followLinks l links).result = .ok () := by
  rw [walk_of_noLinks h, walk_false]
  refine Traced.result_forM_eq_ok fun x hx => ?_
  obtain ⟨k, e⟩ := x
  obtain ⟨hk, hget⟩ := mem_below_iff.1 hx
  rw [passEntry]
  -- only a directory that is out of reach fails, since no link is followed
  cases e with
  | file content mode => rfl
  | dir =>
    dsimp only
    rw [if_pos (hdirs k hk (decide_eq_true hget))]
    rfl
  | link target => rfl

/-- A walk that comes to its end has entered every directory. -/
theorem reachable_of_result_walk (h : t.NoLinks)
    (hwalk : (t.walk reachable followLinks l links).result = .ok ()) {d : List Name} (hd : d ≠ [])
    (hdir : t.isDir (l ++ d) = true) : reachable d = true := by
  rw [walk_of_noLinks h, walk_false] at hwalk
  have hmem : (d, Entry.dir) ∈ t.below l := mem_below_iff.2 ⟨hd, decide_eq_true_iff.1 hdir⟩
  have hpass := Traced.result_of_result_forM hwalk hmem
  rw [passEntry] at hpass
  by_contra hnot
  simp [hnot] at hpass

end Tree

end NativeBuild
