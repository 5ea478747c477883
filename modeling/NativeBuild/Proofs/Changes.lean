import NativeBuild.FileTree.Edit
import NativeBuild.FileTree.Walk
import Mathlib.Data.List.Induction

/-!
# What changes of a tree leave alone

A tree is known by what is at each location (`Tree.eq_of_get?_eq`), so an operation is known by what
it does there. The operations below come in two kinds.

Making directories may fail after it has made some. What it leaves behind is `GainsDirs`: everything
that was there is there as before, and what is new is a directory. One directory that is missing may
be put (`GainsDirs.put`), and by induction along the steps so may all that a path needs
(`gainsDirs_makeAlong`).

A temporary file is made where nothing is, may be refilled any number of times, and is erased.
Nothing lies below a place where nothing is (`get?_eq_none_below`), hence the tree is the same as
before (`erase_of_agreeOutside`).
-/

namespace NativeBuild

namespace Tree

variable {t t' t'' : Tree} {l : Location}

/-! ### Trees by their entries -/

/-- **A tree is known by what is at each location.** -/
theorem eq_of_get?_eq (h : ∀ l, t.get? l = t'.get? l) : t = t' := by
  -- entries are what `get?` finds, and they are listed in order
  have hmem : ∀ x, x ∈ t.entries ↔ x ∈ t'.entries := by
    rintro ⟨l, e⟩
    by_cases hl : l = []
    · subst hl
      exact iff_of_false (fun hx => t.ne_nil_of_mem hx rfl) fun hx => t'.ne_nil_of_mem hx rfl
    · rw [← get?_eq_some_iff hl, ← get?_eq_some_iff hl, h l]
  have hentries : t.entries = t'.entries := t.ascending.eq_of_mem_iff t'.ascending hmem
  cases t
  cases t'
  cases hentries
  rfl

/-- What there is, is in a directory. -/
theorem isDir_of_get?_concat {d : Location} {n : Name} {e : Entry}
    (h : t.get? (d ++ [n]) = some e) :
    t.isDir d = true := by
  obtain ⟨d', n', he, hdir⟩ := t.closed _ ((get?_eq_some_iff (by simp)).1 h)
  obtain ⟨rfl, -⟩ := List.append_inj' he rfl
  exact isDir_iff_hasDir.2 hdir

/-- What lies below a location lies in a directory there. -/
theorem isDir_above {k : Location} {e : Entry} (h : t.get? k = some e) (hlk : l <+: k)
    (hne : l ≠ k) : t.isDir l = true := by
  obtain ⟨r, rfl⟩ := hlk
  -- from the last name upwards, each directory lies in the one before
  induction r using List.reverseRecOn generalizing e with
  | nil => exact absurd (List.append_nil l).symm hne
  | append_singleton r n ih =>
    rw [← List.append_assoc] at h
    have hdir := isDir_of_get?_concat h
    by_cases hr : r = []
    · subst hr
      rwa [List.append_nil] at hdir
    · exact ih (decide_eq_true_iff.1 hdir) (by simpa using hr)

/-- Nothing lies below a place where no directory is. -/
theorem get?_eq_none_below {k : Location} (h : t.isDir l = false) (hlk : l <+: k) (hne : l ≠ k) :
    t.get? k = none := by
  cases hk : t.get? k with
  | none => rfl
  | some e => exact absurd (isDir_above hk hlk hne) (by simp [h])

/-! ### Making directories -/

/-- A tree **gains directories**: what was there stays as it was, and what is new are
directories. -/
structure GainsDirs (t t' : Tree) : Prop where
  keeps : ∀ l e, t.get? l = some e → t'.get? l = some e
  gains : ∀ l e, t'.get? l = some e → t.get? l = some e ∨ t.get? l = none ∧ e = .dir

theorem GainsDirs.refl (t : Tree) : GainsDirs t t := ⟨fun _ _ h => h, fun _ _ h => Or.inl h⟩

/-- Directories are gained in one go or in two. -/
theorem GainsDirs.trans (h : GainsDirs t t') (h' : GainsDirs t' t'') : GainsDirs t t'' where
  keeps l e he := h'.keeps l e (h.keeps l e he)
  gains l e he := by
    rcases h'.gains l e he with he | ⟨hnone, rfl⟩
    · exact h.gains l e he
    · refine Or.inr ⟨?_, rfl⟩
      cases hl : t.get? l with
      | none => rfl
      | some e => exact absurd (h.keeps l e hl) (by simp [hnone])

/-- A directory is put where nothing is. -/
theorem GainsDirs.put {d : Location} {n : Name} (h : t.Admits d n .dir)
    (hnone : t.get? (d ++ [n]) = none) : GainsDirs t (t.put d n .dir h) where
  keeps l e he := by
    -- where the directory is put there was nothing
    have hne : d ++ [n] ≠ l := by
      rintro rfl
      exact absurd he (by simp [hnone])
    rw [get?_put, if_neg hne, he]
  gains l e he := by
    rw [get?_put] at he
    split at he
    · rename_i heq
      exact Or.inr ⟨heq ▸ hnone, (Option.some.inj he).symm⟩
    · exact Or.inl he

/-- **Making directories along steps** gains directories, also where it fails. -/
theorem gainsDirs_makeAlong (t : Tree) (links : Nat) (made : Bool) (l : Location)
    (steps : List Path.Step) : GainsDirs t (t.makeAlong links made l steps).1 := by
  -- on the steps, whatever the tree has become by the time they are taken
  induction steps generalizing t links made l with
  | nil => exact GainsDirs.refl t
  | cons step rest ih =>
    cases step with
    | here => exact ih t links made l
    | up => exact ih t links made l.dropLast
    | down b =>
      unfold makeAlong
      cases Name.ofBytes? b with
      | none => exact GainsDirs.refl t
      | some n =>
        dsimp only
        cases hget : t.get? (l ++ [n]) with
        | none =>
          -- the only step that changes the tree
          dsimp only
          split
          · rename_i hadmits
            exact (GainsDirs.put hadmits hget).trans (ih _ _ _ _)
          · exact GainsDirs.refl t
        | some e =>
          cases e with
          | file content mode => exact GainsDirs.refl t
          | dir => exact ih _ _ _ _
          | link target =>
            -- a link is gone through, or stands in the way
            dsimp only
            cases t.throughLink links l target with
            | error e => exact GainsDirs.refl t
            | ok there =>
              dsimp only
              split
              · exact ih _ _ _ _
              · exact GainsDirs.refl t

/-- **Making the directories of a path** gains directories. -/
theorem gainsDirs_makeDirs (t : Tree) (p : Path) : GainsDirs t (t.makeDirs p).1 := by
  unfold makeDirs
  split
  · exact GainsDirs.refl t
  · exact gainsDirs_makeAlong t _ _ _ _

/-! ### Temporary files -/

/-- Two trees **agree outside** a location. -/
def AgreeOutside (l : Location) (t t' : Tree) : Prop := ∀ k, k ≠ l → t'.get? k = t.get? k

/-- Changes at one place are a change at that place. -/
theorem AgreeOutside.trans (h : AgreeOutside l t t') (h' : AgreeOutside l t' t'') :
    AgreeOutside l t t'' :=
  fun k hk => (h' k hk).trans (h k hk)

/-- Nothing is at a vacant place. -/
theorem get?_eq_none_of_follow {last : Bool} {links left : Nat} {steps : List Path.Step}
    {d : Location} {n : Name} (h : t.follow last links l steps = .ok ⟨.vacant d n, left⟩) :
    t.get? (d ++ [n]) = none := by
  fun_induction Tree.follow t last links l steps <;> simp_all

/-- **A new file is made where nothing is.** -/
theorem createFile_eq_ok {p : Path} {mode : Nat} {d : Location} {n : Name}
    (h : t.createFile p mode = .ok (t', d, n)) :
    t.get? (d ++ [n]) = none ∧ AgreeOutside (d ++ [n]) t t' := by
  unfold createFile at h
  split at h
  · simp at h
  · simp at h
  · rename_i d' n' left hlocate
    split at h
    · rename_i hadmits
      simp only [Except.ok.injEq, Prod.mk.injEq] at h
      obtain ⟨rfl, rfl, rfl⟩ := h
      -- the place was vacant, and no other place is written to
      refine ⟨?_, fun k hk => ?_⟩
      · unfold locate at hlocate
        split at hlocate
        · simp at hlocate
        · exact get?_eq_none_of_follow hlocate
      · rw [get?_put, if_neg (Ne.symm hk)]
    · simp at h

/-- Refilling a file leaves everything else alone. -/
theorem agreeOutside_refill (t : Tree) (d : Location) (n : Name) (content : Bytes) (mode : Nat) :
    AgreeOutside (d ++ [n]) t (t.refill d n content mode) := by
  intro k hk
  unfold refill
  split
  · rw [get?_put, if_neg (Ne.symm hk)]
  · rfl

/-- **A tree with a new file is the old one once the file is erased.** -/
theorem erase_of_agreeOutside (hl : l ≠ []) (hnone : t.get? l = none) (h : AgreeOutside l t t') :
    t'.erase l = t := by
  refine eq_of_get?_eq fun k => ?_
  by_cases hk : k = []
  · subst hk
    rw [get?_nil, get?_nil]
  · -- `erase` takes away the file and what is below it
    rw [get?_erase hk]
    split
    · rename_i hlk
      by_cases he : l = k
      · rw [← he, hnone]
      · -- nothing could have been below a place where nothing was
        exact (get?_eq_none_below (by simp [isDir, hnone]) hlk he).symm
    · rename_i hlk
      refine h k ?_
      rintro rfl
      exact hlk (List.prefix_refl k)

end Tree

end NativeBuild
