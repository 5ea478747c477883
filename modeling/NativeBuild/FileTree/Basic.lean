import NativeBuild.Ascending
import NativeBuild.FileTree.Name

/-!
# File trees

A file tree is a finite set of entries, each at a location: files with bytes and a mode, symbolic
links with the path they hold, directories. Two invariants are part of the type. The entries are
listed in ascending order of their locations, which is the order in which a walk that visits every
directory by name meets them, and an entry lies in a directory. The top of the tree, at the empty
location, is a directory without an entry of its own; relative paths start there.

`Tree.get?` is the view of a tree, and the two operations that change one are known by it:

* `get?_put`: `put` changes what is at one location;
* `get?_erase`: `erase` takes away what is at a location and below it.
-/

namespace NativeBuild

/-- What a name in a directory stands for. -/
inductive Entry where
  | file (content : Bytes) (mode : Nat)
  | link (target : Path)
  | dir
  deriving DecidableEq, Repr

/-- Entries with their locations. -/
abbrev Entries : Type := List (Location × Entry)

/-- Is there a directory at the location? The top always is one. -/
def Entries.HasDir (es : Entries) (l : Location) : Prop := l = [] ∨ (l, Entry.dir) ∈ es

/-- A **file tree**. -/
structure Tree where
  entries : Entries
  ascending : Ascending Prod.fst entries
  closed : ∀ x ∈ entries, ∃ d n, x.1 = d ++ [n] ∧ entries.HasDir d

namespace Tree

/-- The tree of the top directory alone. -/
def empty : Tree := ⟨[], Ascending.nil, by simp⟩

/-- The entries that lie as deep as a location. -/
def asDeepAs (t : Tree) (l : Location) : Entries :=
  let depth := l.length
  t.entries.filter fun x => x.1.length = depth

/-- What is at a location. It is looked for among the entries that lie as deep, because comparing
locations takes time in a deep tree. -/
def get? (t : Tree) (l : Location) : Option Entry :=
  if l = [] then some .dir else (lookup Prod.fst l (t.asDeepAs l)).map Prod.snd

/-- Is there a directory at the location? -/
def isDir (t : Tree) (l : Location) : Bool := t.get? l = some .dir

@[simp] theorem get?_nil (t : Tree) : t.get? [] = some .dir := rfl

theorem ne_nil_of_mem (t : Tree) {x : Location × Entry} (h : x ∈ t.entries) : x.1 ≠ [] := by
  obtain ⟨d, n, hx, -⟩ := t.closed x h
  simp [hx]

theorem get?_eq_some_iff {t : Tree} {l : Location} {e : Entry} (hl : l ≠ []) :
    t.get? l = some e ↔ (l, e) ∈ t.entries := by
  simp only [get?, hl, if_false, Option.map_eq_some_iff]
  constructor
  · rintro ⟨⟨k, e'⟩, h, rfl⟩
    obtain ⟨hm, rfl⟩ := (lookup_eq_some_iff (t.ascending.filter _)).1 h
    exact (List.mem_filter.1 hm).1
  · intro h
    exact ⟨(l, e),
      (lookup_eq_some_iff (t.ascending.filter _)).2 ⟨List.mem_filter.2 ⟨h, by simp⟩, rfl⟩, rfl⟩

theorem isDir_iff_hasDir {t : Tree} {l : Location} : t.isDir l = true ↔ t.entries.HasDir l := by
  simp only [isDir, decide_eq_true_eq, Entries.HasDir]
  by_cases hl : l = []
  · simp [hl]
  · simp [hl, get?_eq_some_iff hl]

/-- May an entry be put under a name of a directory? A directory makes room only for a directory,
because something may lie in it. -/
def Admits (t : Tree) (d : Location) (n : Name) (e : Entry) : Prop :=
  t.isDir d = true ∧ (t.isDir (d ++ [n]) = true → e = .dir)

instance (t : Tree) (d : Location) (n : Name) (e : Entry) : Decidable (t.Admits d n e) :=
  inferInstanceAs (Decidable (_ ∧ _))

/-- Puts an entry under a name of a directory, in the place of what was there. -/
def put (t : Tree) (d : Location) (n : Name) (e : Entry) (h : t.Admits d n e) : Tree where
  entries := insertAt Prod.fst (d ++ [n], e) t.entries
  ascending := t.ascending.insertAt
  closed := by
    have keep : ∀ {l}, t.entries.HasDir l →
        Entries.HasDir (insertAt Prod.fst (d ++ [n], e) t.entries) l := by
      rintro l (rfl | hl)
      · exact Or.inl rfl
      · by_cases hk : l = d ++ [n]
        · subst hk
          have := h.2 (isDir_iff_hasDir.2 (Or.inr hl))
          exact Or.inr (this ▸ self_mem_insertAt)
        · exact Or.inr (mem_insertAt_of_mem hl hk)
    intro x hx
    rcases mem_of_mem_insertAt hx with rfl | hx
    · exact ⟨d, n, rfl, keep (isDir_iff_hasDir.1 h.1)⟩
    · obtain ⟨d', n', hx', hd⟩ := t.closed x hx
      exact ⟨d', n', hx', keep hd⟩

/-- **What `put` does**: it changes what is at one location. -/
theorem get?_put {t : Tree} {d : Location} {n : Name} {e : Entry} (h : t.Admits d n e)
    (l : Location) : (t.put d n e h).get? l = if d ++ [n] = l then some e else t.get? l := by
  by_cases hl : l = []
  · subst hl
    simp
  · refine Option.ext fun x => ?_
    rw [get?_eq_some_iff hl]
    simp only [put]
    split
    · rename_i hk
      subst hk
      constructor
      · intro hx
        exact congrArg (some ∘ Prod.snd)
          (t.ascending.insertAt.eq_of_key_eq self_mem_insertAt hx rfl)
      · rintro ⟨⟩
        exact self_mem_insertAt
    · rename_i hk
      rw [get?_eq_some_iff hl]
      constructor
      · intro hx
        rcases mem_of_mem_insertAt hx with hx | hx
        · exact absurd (congrArg Prod.fst hx).symm hk
        · exact hx
      · exact fun hx => mem_insertAt_of_mem hx (Ne.symm hk)

/-- Takes away what is at a location and below it. -/
def erase (t : Tree) (l : Location) : Tree where
  entries := t.entries.filter fun x => !l.isPrefixOf x.1
  ascending := t.ascending.filter _
  closed := by
    intro x hx
    obtain ⟨hx, hlx⟩ := List.mem_filter.1 hx
    obtain ⟨d, n, hxd, hd⟩ := t.closed x hx
    refine ⟨d, n, hxd, hd.imp id fun hd => List.mem_filter.2 ⟨hd, ?_⟩⟩
    rw [Bool.not_eq_true', Bool.eq_false_iff] at hlx ⊢
    intro hld
    refine hlx (List.isPrefixOf_iff_prefix.2 ?_)
    rw [hxd]
    exact (List.isPrefixOf_iff_prefix.1 hld).trans (List.prefix_append d [n])

/-- **What `erase` does**: it takes away the locations that lie at or below one. -/
theorem get?_erase {t : Tree} {l k : Location} (hk : k ≠ []) :
    (t.erase l).get? k = if l <+: k then none else t.get? k := by
  have key : ∀ e, (t.erase l).get? k = some e ↔ t.get? k = some e ∧ ¬ l <+: k := by
    intro e
    rw [get?_eq_some_iff hk, get?_eq_some_iff hk]
    simp [erase, List.mem_filter, ← List.isPrefixOf_iff_prefix]
  split
  · rename_i h
    cases he : (t.erase l).get? k with
    | none => rfl
    | some e => exact absurd h ((key e).1 he).2
  · rename_i h
    cases he : t.get? k with
    | some e => exact (key e).2 ⟨he, h⟩
    | none =>
      cases he' : (t.erase l).get? k with
      | none => rfl
      | some e => simp [((key e).1 he').1] at he

/-- The entries below a location, with their locations as seen from there, in the order of a
walk. -/
def below (t : Tree) (l : Location) : Entries :=
  t.entries.filterMap fun x =>
    match l.isPrefixOf? x.1 with
    | some (n :: r) => some (n :: r, x.2)
    | _ => none

end Tree

end NativeBuild
