import NativeBuild.Proofs.Spelling
import NativeBuild.Proofs.Stock
import NativeBuild.Proofs.Walking
import Mathlib.Data.List.Pairwise

/-!
# What a scan answers

A scan takes stock of the source files that its walk meets: of names that lead to a file, if they
are `SourceNames`. Taking stock is refused for one reason, a file of the same stem that is in stock
under the same directory already (`foldlM_takeStock_cases`). Hence the statements on scans:

* `scan_eq_ok_iff`: when a scan succeeds, and with what;
* `clash_of_scan`: a scan that is refused for two files of one name has met both of them;
* `scan_of_not_clash`: a scan succeeds if nothing clashes and the walk comes to its end;
* `stocked_iff_of_scan` and `not_clash_of_scan`: after a scan exactly what there was to meet is in
  stock, and no two of these files have one name in directories that are called the same.
-/

namespace NativeBuild

/-! ### Refusals -/

/-- Two source files that were found **clash**: they cannot both be in stock. -/
def Discovered.Clashes (a b : Discovered) : Prop := a.dir = b.dir ∧ a.file.name = b.file.name

/-- The error for a source file that clashes with an earlier one. -/
def Discovered.clash (first second : Discovered) : BuildError :=
  .duplicateName second.place second.file.name first.file.ext second.file.ext

theorem takeStock_cases {invs : List Inventory} (ha : Ascending Inventory.dir invs)
    (d : Discovered) :
    ((∃ invs', takeStock invs d = .ok invs') ∧ ∀ f, Stocked invs d.dir f → f.name ≠ d.file.name) ∨
      ∃ first, Stocked invs d.dir first ∧ first.name = d.file.name ∧
        takeStock invs d = .error (.duplicateName d.place d.file.name first.ext d.file.ext) := by
  unfold takeStock
  generalize hinv : (lookup Inventory.dir d.dir invs).getD (.empty d.dir) = inv
  have hstock : ∀ f, f ∈ inv.files ↔ Stocked invs d.dir f := by
    rintro f
    rw [← hinv]
    exact mem_lookup_getD_iff ha
  cases hget : inv.get? d.file.name with
  | none =>
    -- no file of the inventory has the name
    refine Or.inl ⟨⟨_, by rw [Inventory.insert_of_none hget]; rfl⟩, fun f hf => ?_⟩
    exact lookup_eq_none_iff.1 hget f ((hstock f).2 hf)
  | some first =>
    -- the file that has it is in the inventory, and so it has been taken in before
    obtain ⟨hmem, hname⟩ := (lookup_eq_some_iff inv.ascending).1 hget
    exact Or.inr ⟨first, (hstock first).1 hmem, hname, by rw [Inventory.insert_of_some hget]; rfl⟩

/-- **Taking stock goes well or comes upon a clash**; `found` is what is still to be taken in, after
`before`. It stops at the first file that clashes with one in front of it. -/
theorem foldlM_takeStock_cases {before : List Discovered} (found : List Discovered)
    {invs : List Inventory} (ha : Ascending Inventory.dir invs)
    (hs : ∀ dir f, Stocked invs dir f ↔ ∃ d ∈ before, dir = d.dir ∧ f = d.file)
    (hb : before.Pairwise fun a b => ¬ a.Clashes b) :
    ((∃ invs', found.foldlM takeStock invs = .ok invs') ∧
        (before ++ found).Pairwise fun a b => ¬ a.Clashes b) ∨
      ∃ first second front back, found = front ++ second :: back ∧ first ∈ before ++ front ∧
        first.Clashes second ∧ ((before ++ front).Pairwise fun a b => ¬ a.Clashes b) ∧
        found.foldlM takeStock invs = .error (first.clash second) := by
  -- on what is ahead; `before` is what the inventories hold by now
  induction found generalizing before invs with
  | nil => exact Or.inl ⟨⟨invs, rfl⟩, by simpa using hb⟩
  | cons d rest ih =>
    rw [List.foldlM_cons]
    rcases takeStock_cases ha d with ⟨⟨invs', hd⟩, hfree⟩ | ⟨first, hfirst, hname, hd⟩
    · -- the file is one of those before from now on
      obtain ⟨ha', hs'⟩ := takeStock_spec ha hd
      have hb' : (before ++ [d]).Pairwise fun a b => ¬ a.Clashes b := by
        refine List.pairwise_append.2 ⟨hb, List.pairwise_singleton _ d, fun a hmem b hbd => ?_⟩
        obtain rfl := List.mem_singleton.1 hbd
        rintro ⟨hdir, hname⟩
        exact hfree a.file ((hs _ _).2 ⟨a, hmem, hdir.symm, rfl⟩) hname
      have hstock : ∀ dir f, Stocked invs' dir f ↔ ∃ a ∈ before ++ [d], dir = a.dir ∧
          f = a.file := by
        intro dir f
        rw [hs', hs]
        simp only [List.mem_append, List.mem_singleton, or_and_right, exists_or, exists_eq_left]
        exact or_comm
      have h := ih ha' hstock hb'
      simp only [List.append_assoc, List.singleton_append] at h
      rw [hd]
      rcases h with h | ⟨first, second, front, back, hrest, hrefused⟩
      · exact Or.inl h
      · exact Or.inr ⟨first, second, d :: front, back, by rw [hrest, List.cons_append], hrefused⟩
    · -- the file is refused, and the one it clashes with is one of those before
      obtain ⟨a, hmem, hdir, rfl⟩ := (hs _ _).1 hfirst
      refine Or.inr ⟨a, d, [], rest, rfl, ?_, ⟨hdir.symm, hname⟩, ?_, by rw [hd]; rfl⟩
      · rwa [List.append_nil]
      · rwa [List.append_nil]

/-- Two source files are **called alike**: by one name, in directories that are called the same. -/
def SourceNames.Alike (s s' : SourceNames) : Prop :=
  slashPath s.dirs = slashPath s'.dirs ∧ s.stem = s'.stem

/-- Of names that were noted, **no two are called alike** if what was found does not clash. -/
theorem names_eq_of_not_clashes {base : Path} {root : String} {notes : List (List Name)}
    (h : (notes.filterMap (Discovered.ofNames? base root)).Pairwise fun a b => ¬ a.Clashes b)
    {s s' : SourceNames} (hs : s.names ∈ notes) (hs' : s'.names ∈ notes)
    (halike : s.Alike s') : s.names = s'.names := by
  -- both were noted, the one before the other or the other before the one
  have hsymm : Std.Symm fun ns ms : List Name => ∀ a, Discovered.ofNames? base root ns = some a →
      ∀ b, Discovered.ofNames? base root ms = some b → ¬ a.Clashes b :=
    ⟨fun ns ms hnot a ha b hb hab => hnot b hb a ha ⟨hab.1.symm, hab.2.symm⟩⟩
  by_contra hne
  refine (List.pairwise_filterMap.1 h).forall hs hs' hne
    _ (Discovered.ofNames?_eq_some_iff.2 ⟨s, rfl, rfl⟩) _
    (Discovered.ofNames?_eq_some_iff.2 ⟨s', rfl, rfl⟩) ?_
  exact halike

/-! ### The files that there are to meet -/

namespace Tree

variable {t : Tree} {project : Path} {root : String} {followLinks : Bool} {invs : List Inventory}
  {l : Location} {links : Nat}

/-- **What was found** is what there is to meet, under names that lead to a file. -/
theorem exists_fileAt_of_mem_found {d : Discovered}
    (h : d ∈ t.found project root followLinks l links) :
    ∃ s : SourceNames, t.FileAt followLinks links l s.names ∧
      s.discovered (rootPath project root) (trimRoot root) = d := by
  obtain ⟨names, hnames, hd⟩ := List.mem_filterMap.1 h
  obtain ⟨s, rfl, hs⟩ := Discovered.ofNames?_eq_some_iff.1 hd
  exact ⟨s, fileAt_of_mem_notes_walk hnames, hs⟩

/-- **Everything that there is to meet** is found, if the walk comes to its end. -/
theorem discovered_mem_found
    (hwalk : (t.walk (reachable (rootPath project root)) followLinks l links).result = .ok ())
    (hdir : t.isDir l = true) {s : SourceNames} (h : t.FileAt followLinks links l s.names) :
    s.discovered (rootPath project root) (trimRoot root) ∈
      t.found project root followLinks l links :=
  List.mem_filterMap.2 ⟨s.names, mem_notes_walk_of_fileAt hwalk hdir h,
    Discovered.ofNames?_eq_some_iff.2 ⟨s, rfl, rfl⟩⟩

/-- Two that were found were met under different names. -/
theorem pairwise_found : (t.found project root followLinks l links).Pairwise fun a b =>
    ∃ s s' : SourceNames, s.names ≠ s'.names ∧
      t.FileAt followLinks links l s.names ∧ t.FileAt followLinks links l s'.names ∧
      s.discovered (rootPath project root) (trimRoot root) = a ∧
      s'.discovered (rootPath project root) (trimRoot root) = b := by
  have hnotes : (t.walk (reachable (rootPath project root)) followLinks l links).notes.Nodup :=
    nodup_notes_walk
  refine List.Pairwise.filterMap _ (fun ns ms hne a ha b hb => ?_) (List.Pairwise.and_mem.1 hnotes)
  obtain ⟨hns, hms, hne⟩ := hne
  obtain ⟨s, rfl, hs⟩ := Discovered.ofNames?_eq_some_iff.1 ha
  obtain ⟨s', rfl, hs'⟩ := Discovered.ofNames?_eq_some_iff.1 hb
  exact ⟨s, s', hne, fileAt_of_mem_notes_walk hns, fileAt_of_mem_notes_walk hms, hs, hs'⟩

/-- Two source files of one name in directories that are called the same. -/
def Clash (t : Tree) (followLinks : Bool) (links : Nat) (l : Location)
    (s s' : SourceNames) : Prop :=
  s.names ≠ s'.names ∧ t.FileAt followLinks links l s.names ∧
    t.FileAt followLinks links l s'.names ∧
    slashPath s.dirs = slashPath s'.dirs ∧ s.stem = s'.stem

/-- **Taking stock of what was found** goes well, or two of the files clash. -/
theorem foldlM_found_cases (t : Tree) (project : Path) (root : String) (followLinks : Bool)
    (l : Location) (links : Nat) :
    (∃ invs, (t.found project root followLinks l links).foldlM takeStock [] = .ok invs ∧
        (t.found project root followLinks l links).Pairwise fun a b => ¬ a.Clashes b) ∨
      ∃ s s' : SourceNames, t.Clash followLinks links l s s' ∧
        (t.found project root followLinks l links).foldlM takeStock [] =
          .error ((s.discovered (rootPath project root) (trimRoot root)).clash
            (s'.discovered (rootPath project root) (trimRoot root))) := by
  have hcases := foldlM_takeStock_cases (t.found project root followLinks l links) Ascending.nil
    (fun dir f => by simp) List.Pairwise.nil
  rw [List.nil_append] at hcases
  rcases hcases with ⟨⟨invs, hfound⟩, hpair⟩ |
    ⟨a, b, front, back, heq, ha, ⟨hdir, hname⟩, -, hfound⟩
  · exact Or.inl ⟨invs, hfound, hpair⟩
  · -- the two that clash are found one after the other, under different names
    have hsub : [a, b].Sublist (t.found project root followLinks l links) := by
      rw [heq]
      exact (List.singleton_sublist.2 ha).append (List.singleton_sublist.2 List.mem_cons_self)
    obtain ⟨s, s', hne, hs, hs', rfl, rfl⟩ := List.pairwise_iff_forall_sublist.1 pairwise_found hsub
    exact Or.inr ⟨s, s', ⟨hne, hs, hs', hdir, hname⟩, hfound⟩

/-! ### What a scan answers -/

/-- A root is refused for one reason only. -/
theorem checkRoot_eq_error (h : checkRoot root ≠ .ok ()) :
    checkRoot root = .error (.invalidRoot root) := by
  unfold checkRoot at h ⊢
  split
  · rename_i c _ hc
    rw [hc] at h
    dsimp only at h
    split at h
    · exact absurd rfl h
    · rename_i hstart
      rw [if_neg hstart]
  · rfl

/-- The three ways of a scan: the root is refused, it is no directory, or its files are taken stock
of. -/
theorem scan_cases (t : Tree) (project : Path) (root : String) (followLinks : Bool) :
    (checkRoot root ≠ .ok () ∧
      (t.scan project root followLinks).result = .error (.invalidRoot root)) ∨
      checkRoot root = .ok () ∧
        (((∀ l links, t.resolve (rootPath project root) = .ok (l, links) → t.isDir l = false) ∧
            (t.scan project root followLinks).result = .ok []) ∨
          ∃ l links, t.resolve (rootPath project root) = .ok (l, links) ∧ t.isDir l = true) := by
  by_cases hroot : checkRoot root = .ok ()
  · refine Or.inr ⟨hroot, ?_⟩
    by_cases hr : ∃ l links, t.resolve (rootPath project root) = .ok (l, links) ∧ t.isDir l = true
    · exact Or.inr hr
    · simp only [not_exists, not_and, Bool.not_eq_true] at hr
      exact Or.inl ⟨hr, scan_of_missing hroot hr⟩
  · refine Or.inl ⟨hroot, ?_⟩
    unfold Tree.scan
    rw [Traced.result_bind, Traced.result_ofExcept, checkRoot_eq_error hroot]
    rfl

/-- **When a scan succeeds, and with what.** -/
theorem scan_eq_ok_iff : (t.scan project root followLinks).result = .ok invs ↔
    checkRoot root = .ok () ∧
      (((∀ l links, t.resolve (rootPath project root) = .ok (l, links) → t.isDir l = false) ∧
        invs = []) ∨
        ∃ l links, t.resolve (rootPath project root) = .ok (l, links) ∧ t.isDir l = true ∧
          (t.found project root followLinks l links).foldlM takeStock [] = .ok invs ∧
          (t.walk (reachable (rootPath project root)) followLinks l links).result = .ok ()) := by
  rcases scan_cases t project root followLinks with ⟨hroot, hscan⟩ | ⟨hroot, ⟨hdir, hscan⟩ |
    ⟨l, links, hr, hdir⟩⟩
  · simp [hroot, hscan]
  · -- the root cannot be a directory as well
    rw [hscan, and_iff_right hroot]
    constructor
    · exact fun h => Or.inl ⟨hdir, (Except.ok.inj h).symm⟩
    · rintro (⟨-, rfl⟩ | ⟨l, links, hr, hd, -⟩)
      · rfl
      · exact absurd hd (by simp [hdir l links hr])
  · -- both the stock and the walk have to go well
    rw [scan_of_isDir hroot hr hdir, bind_eq_ok_iff, and_iff_right hroot]
    constructor
    · rintro ⟨invs', hfound, hwalk⟩
      split at hwalk
      · exact absurd hwalk (by simp)
      · rename_i hw
        obtain rfl := Except.ok.inj hwalk
        exact Or.inr ⟨l, links, hr, hdir, hfound, hw⟩
    · rintro (⟨hnone, -⟩ | ⟨l', links', hr', -, hfound, hwalk⟩)
      · exact absurd hdir (by simp [hnone l links hr])
      · obtain ⟨rfl, rfl⟩ := Prod.mk.inj (Except.ok.inj (hr.symm.trans hr'))
        exact ⟨invs, hfound, by rw [hwalk]⟩

/-- **A scan is refused for two files of one name** only if it has met both of them. -/
theorem clash_of_scan {place : Path} {name first second : String}
    (h : (t.scan project root followLinks).result =
      .error (.duplicateName place name first second)) :
    checkRoot root = .ok () ∧ ∃ l links, t.resolve (rootPath project root) = .ok (l, links) ∧
      t.isDir l = true ∧ ∃ s s' : SourceNames, t.Clash followLinks links l s s' ∧
        s.stem = name ∧ s.ext = first ∧ s'.ext = second := by
  rcases scan_cases t project root followLinks with ⟨-, hscan⟩ | ⟨hroot, ⟨-, hscan⟩ |
    ⟨l, links, hr, hdir⟩⟩
  · rw [hscan] at h
    simp at h
  · rw [hscan] at h
    simp at h
  · -- below a directory it is the stock that fails in this way
    refine ⟨hroot, l, links, hr, hdir, ?_⟩
    rw [scan_of_isDir hroot hr hdir] at h
    rcases foldlM_found_cases t project root followLinks l links with ⟨invs, hfound, -⟩ |
      ⟨s, s', hclash, hfound⟩
    · -- only the walk can have failed
      rw [hfound] at h
      cases hwalk : (t.walk (reachable (rootPath project root)) followLinks l links).result with
      | error fault =>
        rw [hwalk] at h
        simp [bind, Except.bind] at h
      | ok u =>
        rw [hwalk] at h
        simp [bind, Except.bind] at h
    · rw [hfound] at h
      obtain ⟨-, rfl, rfl, rfl⟩ := BuildError.duplicateName.inj (Except.error.inj h)
      exact ⟨s, s', hclash, hclash.2.2.2.2, rfl, rfl⟩

/-- **A scan without clashes** succeeds if its walk comes to its end. -/
theorem scan_of_not_clash (hroot : checkRoot root = .ok ())
    (hr : t.resolve (rootPath project root) = .ok (l, links)) (hdir : t.isDir l = true)
    (hwalk : (t.walk (reachable (rootPath project root)) followLinks l links).result = .ok ())
    (h : ∀ s s', ¬ t.Clash followLinks links l s s') :
    ∃ invs, (t.scan project root followLinks).result = .ok invs := by
  rcases foldlM_found_cases t project root followLinks l links with ⟨invs, hfound, -⟩ |
    ⟨s, s', hclash, -⟩
  · exact ⟨invs, scan_eq_ok_iff.2 ⟨hroot, Or.inr ⟨l, links, hr, hdir, hfound, hwalk⟩⟩⟩
  · exact absurd hclash (h s s')

section Scanned

variable (h : (t.scan project root followLinks).result = .ok invs)
  (hr : t.resolve (rootPath project root) = .ok (l, links)) (hdir : t.isDir l = true)

include h hr hdir

/-- A scan that succeeds below a directory has taken stock of all it found, and its walk has come to
its end. -/
theorem found_of_scan : (t.found project root followLinks l links).foldlM takeStock [] = .ok invs ∧
    (t.walk (reachable (rootPath project root)) followLinks l links).result = .ok () := by
  obtain ⟨-, ⟨hnone, -⟩ | ⟨l', links', hr', -, hfound, hwalk⟩⟩ := scan_eq_ok_iff.1 h
  · exact absurd hdir (by simp [hnone l links hr])
  · obtain ⟨rfl, rfl⟩ := Prod.mk.inj (Except.ok.inj (hr.symm.trans hr'))
    exact ⟨hfound, hwalk⟩

/-- **What is in stock after a scan** is what there was to meet. -/
theorem stocked_iff_of_scan {dir : String} {f : SourceFile} : Stocked invs dir f ↔
    ∃ s : SourceNames, t.FileAt followLinks links l s.names ∧ slashPath s.dirs = dir ∧
      (s.discovered (rootPath project root) (trimRoot root)).file = f := by
  obtain ⟨hfound, hwalk⟩ := found_of_scan h hr hdir
  rw [(foldlM_takeStock_spec Ascending.nil hfound).2, or_iff_left (stocked_nil dir f)]
  constructor
  · rintro ⟨d, hd, rfl, rfl⟩
    obtain ⟨s, hs, rfl⟩ := exists_fileAt_of_mem_found hd
    exact ⟨s, hs, rfl, rfl⟩
  · rintro ⟨s, hs, rfl, rfl⟩
    exact ⟨_, discovered_mem_found hwalk hdir hs, rfl, rfl⟩

/-- **No two files clash** in a tree of which a scan has taken stock. -/
theorem not_clash_of_scan (s s' : SourceNames) : ¬ t.Clash followLinks links l s s' := by
  rintro ⟨hne, hs, hs', hcalled, hstem⟩
  obtain ⟨hfound, hwalk⟩ := found_of_scan h hr hdir
  rcases foldlM_found_cases t project root followLinks l links with ⟨-, -, hpair⟩ |
    ⟨_, _, -, herror⟩
  · refine hne (names_eq_of_not_clashes hpair ?_ ?_ ⟨hcalled, hstem⟩)
    · exact mem_notes_walk_of_fileAt hwalk hdir hs
    · exact mem_notes_walk_of_fileAt hwalk hdir hs'
  · rw [hfound] at herror
    simp at herror

end Scanned

end Tree

end NativeBuild
