import NativeBuild.Proofs.Naming
import NativeBuild.Proofs.Success
import Mathlib.Data.List.Nodup

/-!
# What a scan has in stock

A scan takes the source files it comes upon into inventories, one for each directory. The view of
these inventories is `Stocked`: which files are in stock under which directory. Taking in one more
file adds that file under its directory and nothing else, and keeps the directories ascending
(`takeStock_spec`); so does, by induction, taking in a whole list of them (`foldlM_takeStock_spec`).

A scan succeeds with no inventories when the root is no directory (`scan_of_missing`), and otherwise
takes stock of everything that its walk comes upon (`scan_of_isDir`). From there the main statements
are read off:

* `ascending_of_scan`: the directories of a scan ascend, so no two inventories have the same one;
* `lies_of_scan`: a file is called by names below the root, and its inventory by the directory among
  them;
* `nodup_files_of_scan`: no file is in stock twice.
-/

namespace NativeBuild

/-! ### The view of inventories -/

/-- A file is **in stock** under a directory. -/
def Stocked (invs : List Inventory) (dir : String) (f : SourceFile) : Prop :=
  ∃ inv ∈ invs, inv.dir = dir ∧ f ∈ inv.files

@[simp] theorem stocked_nil (dir : String) (f : SourceFile) : ¬ Stocked [] dir f := by
  rintro ⟨inv, hinv, -⟩
  exact absurd hinv (List.not_mem_nil)

/-- An insertion adds the file and nothing else. -/
theorem Inventory.insert_eq_ok {inv inv' : Inventory} {f : SourceFile} {place : Path}
    (h : inv.insert f place = .ok inv') : inv'.dir = inv.dir ∧
      ∀ g, g ∈ inv'.files ↔ g = f ∨ g ∈ inv.files := by
  cases hg : inv.get? f.name with
  | some first => simp [insert_of_some hg] at h
  | none =>
    rw [insert_of_none hg] at h
    obtain rfl := (Except.ok.inj h).symm
    -- no file makes room for the new one
    have hfree : ∀ b ∈ inv.files, b.name ≠ f.name := lookup_eq_none_iff.1 hg
    exact ⟨rfl, fun g => mem_insertAt_iff hfree⟩

/-- The inventory that a file of a directory is taken into: what is in stock under the directory. -/
theorem mem_lookup_getD_iff {invs : List Inventory} (h : Ascending Inventory.dir invs)
    {dir : String} {f : SourceFile} :
    f ∈ ((lookup Inventory.dir dir invs).getD (.empty dir)).files ↔ Stocked invs dir f := by
  cases hl : lookup Inventory.dir dir invs with
  | none =>
    -- there is no inventory yet, and the new one is empty
    rw [Option.getD_none]
    constructor
    · exact fun hf => absurd hf List.not_mem_nil
    · rintro ⟨inv, hinv, hdir, -⟩
      exact absurd hdir (lookup_eq_none_iff.1 hl inv hinv)
  | some inv =>
    -- the inventory that is found is the only one of its directory
    obtain ⟨hinv, hdir⟩ := (lookup_eq_some_iff h).1 hl
    rw [Option.getD_some]
    constructor
    · exact fun hf => ⟨inv, hinv, hdir, hf⟩
    · rintro ⟨inv', hinv', hdir', hf⟩
      rwa [h.eq_of_key_eq hinv hinv' (hdir.trans hdir'.symm)]

/-- What is looked up for a directory is the inventory of that directory, new or not. -/
theorem dir_lookup_getD {invs : List Inventory} (dir : String) :
    ((lookup Inventory.dir dir invs).getD (.empty dir)).dir = dir := by
  cases hl : lookup Inventory.dir dir invs with
  | none => rfl
  | some inv => simpa using List.find?_some hl

/-- **Taking stock of a file** adds the file under its directory. -/
theorem takeStock_spec {invs invs' : List Inventory} {d : Discovered}
    (ha : Ascending Inventory.dir invs) (h : takeStock invs d = .ok invs') :
    Ascending Inventory.dir invs' ∧
      ∀ dir f, Stocked invs' dir f ↔ (dir = d.dir ∧ f = d.file) ∨ Stocked invs dir f := by
  obtain ⟨inv, hi, he⟩ := bind_eq_ok_iff.1 h
  obtain rfl : insertAt Inventory.dir inv invs = invs' := Except.ok.inj he
  obtain ⟨hdir, hfiles⟩ := Inventory.insert_eq_ok hi
  rw [dir_lookup_getD] at hdir
  refine ⟨ha.insertAt, fun dir f => ⟨?_, ?_⟩⟩
  · -- what is in stock now is in the new inventory or in one that was there before
    rintro ⟨inv', hinv', rfl, hf⟩
    rcases mem_of_mem_insertAt hinv' with rfl | hold
    · rcases (hfiles f).1 hf with rfl | hf
      · exact Or.inl ⟨hdir, rfl⟩
      · rw [hdir]
        exact Or.inr ((mem_lookup_getD_iff ha).1 hf)
    · exact Or.inr ⟨inv', hold, rfl, hf⟩
  · rintro (⟨rfl, rfl⟩ | hs)
    · exact ⟨inv, self_mem_insertAt, hdir, (hfiles _).2 (Or.inl rfl)⟩
    · -- the inventory of the directory itself has made room for the one with the new file
      by_cases hk : dir = d.dir
      · subst hk
        exact ⟨inv, self_mem_insertAt, hdir, (hfiles f).2 (Or.inr ((mem_lookup_getD_iff ha).2 hs))⟩
      · obtain ⟨inv', hinv', rfl, hf⟩ := hs
        exact ⟨inv', mem_insertAt_of_mem hinv' (hdir ▸ hk), rfl, hf⟩

/-- **Taking stock of files** adds each of them under its directory. -/
theorem foldlM_takeStock_spec {found : List Discovered} {invs invs' : List Inventory}
    (ha : Ascending Inventory.dir invs) (h : found.foldlM takeStock invs = .ok invs') :
    Ascending Inventory.dir invs' ∧
      ∀ dir f, Stocked invs' dir f ↔ (∃ d ∈ found, dir = d.dir ∧ f = d.file) ∨
        Stocked invs dir f := by
  induction found generalizing invs with
  | nil =>
    obtain rfl : invs = invs' := Except.ok.inj h
    exact ⟨ha, by simp⟩
  | cons d rest ih =>
    -- the first file is taken in, and the rest goes on from there
    rw [List.foldlM_cons, bind_eq_ok_iff] at h
    obtain ⟨invs₁, hd, hrest⟩ := h
    obtain ⟨ha₁, hs₁⟩ := takeStock_spec ha hd
    obtain ⟨ha', hs'⟩ := ih ha₁ hrest
    refine ⟨ha', fun dir f => ?_⟩
    rw [hs', hs₁]
    simp only [List.mem_cons, exists_eq_or_imp]
    exact or_left_comm.trans or_assoc.symm

/-! ### Opening a scan -/

/-- The path of a root. -/
def rootPath (project : Path) (root : String) : Path := project.join (.ofString (trimRoot root))

/-- The condition on the names below a root under which a walk can go on. -/
def reachable (base : Path) (names : List Name) : Bool := (WalkFault.pathFrom base names).fits

namespace Tree

variable {t : Tree} {project : Path} {root : String} {followLinks : Bool} {invs : List Inventory}

/-- What the walk of a scan comes upon; `l` is where the root lies. -/
def found (t : Tree) (project : Path) (root : String) (followLinks : Bool) (l : Location)
    (links : Nat) : List Discovered :=
  (t.walk (reachable (rootPath project root)) followLinks l links).notes.filterMap
    (Discovered.ofNames? (rootPath project root) (trimRoot root))

/-- Where there is no directory at the root, a scan succeeds and finds nothing. -/
theorem scan_of_missing (hroot : checkRoot root = .ok ())
    (hdir : ∀ l links, t.resolve (rootPath project root) = .ok (l, links) → t.isDir l = false) :
    (t.scan project root followLinks).result = .ok [] := by
  unfold Tree.scan
  rw [hroot, ← rootPath, Traced.ofExcept_ok_bind]
  dsimp only
  cases hr : t.resolve (rootPath project root) with
  | error e => rfl
  | ok a =>
    obtain ⟨l, links⟩ := a
    dsimp only
    rw [hdir l links hr]
    rfl

/-- **A scan of a directory** takes stock of what its walk comes upon; if that goes well, it fails
as the walk fails. -/
theorem scan_of_isDir (hroot : checkRoot root = .ok ()) {l : Location} {links : Nat}
    (hr : t.resolve (rootPath project root) = .ok (l, links)) (hdir : t.isDir l = true) :
    (t.scan project root followLinks).result =
      (t.found project root followLinks l links).foldlM takeStock [] >>= fun invs =>
        match (t.walk (reachable (rootPath project root)) followLinks l links).result with
        | .error fault => .error (.walk (rootPath project root) fault)
        | .ok () => .ok invs := by
  unfold Tree.scan
  rw [hroot, ← rootPath, Traced.ofExcept_ok_bind]
  dsimp only
  rw [hr]
  dsimp only
  rw [if_pos hdir, Traced.result_bind, Traced.result_ofExcept]
  -- what is left is the fault of the walk, if there is one
  refine congrArg _ (funext fun invs => ?_)
  unfold reachable
  generalize (t.walk (fun names => (WalkFault.pathFrom (rootPath project root) names).fits)
    followLinks l links).result = walked
  cases walked with
  | error fault => rfl
  | ok _ => rfl

/-- What a successful scan has in stock was found below the root. -/
theorem scan_eq_ok (h : (t.scan project root followLinks).result = .ok invs) :
    ∃ found : List Discovered, found.foldlM takeStock [] = .ok invs ∧ ∀ d ∈ found,
      ∃ names, Discovered.ofNames? (rootPath project root) (trimRoot root) names = some d := by
  have hroot : checkRoot root = .ok () := by
    unfold Tree.scan at h
    exact (Traced.result_bind_unit_eq_ok_iff.1 h).1
  by_cases hr : ∃ l links, t.resolve (rootPath project root) = .ok (l, links) ∧ t.isDir l = true
  · -- the fold may have succeeded and the walk failed, but not here
    obtain ⟨l, links, hr, hdir⟩ := hr
    rw [scan_of_isDir hroot hr hdir, bind_eq_ok_iff] at h
    obtain ⟨invs', hfound, hwalk⟩ := h
    refine ⟨t.found project root followLinks l links, ?_, fun d hd => ?_⟩
    · split at hwalk
      · exact absurd hwalk (by simp)
      · exact Except.ok.inj hwalk ▸ hfound
    · obtain ⟨names, -, hnames⟩ := List.mem_filterMap.1 hd
      exact ⟨names, hnames⟩
  · -- there is nothing at the root
    simp only [not_exists, not_and, Bool.not_eq_true] at hr
    rw [scan_of_missing hroot hr] at h
    obtain rfl := Except.ok.inj h
    exact ⟨[], rfl, by simp⟩

end Tree

/-! ### What is in stock -/

/-- A file **lies below a root** in a directory if it is called by the names on the way to it, and
the directory by the names before the last. -/
structure SourceFile.Lies (root dir : String) (f : SourceFile) : Prop where
  called : ∃ names : List Name, names ≠ [] ∧ dir = slashPath names.dropLast ∧
    f.relPath = root ++ "/" ++ slashPath names
  slash_notMem_name : '/' ∉ f.name.toList

/-- A file that was found lies in the directory that it was found in. -/
theorem Discovered.lies_of_ofNames? {base : Path} {root : String} {names : List Name}
    {d : Discovered} (h : Discovered.ofNames? base root names = some d) :
    d.file.Lies root d.dir := by
  unfold Discovered.ofNames? at h
  -- a file is found only where there is a last name, with an extension that is one of source files
  split at h
  · simp at h
  · rename_i last hlast
    have hne : names ≠ [] := by
      rintro rfl
      simp at hlast
    split at h
    · simp at h
    · rename_i stem ext hsplit
      split at h
      · rename_i stemText extText hstem hext
        split at h
        · obtain rfl := (Option.some.inj h).symm
          refine ⟨⟨names, hne, rfl, rfl⟩, ?_⟩
          have hst : last.split.1 = stem := by rw [hsplit]
          rw [String.toList_ofList]
          exact Name.slash_notMem_stem (hst ▸ hstem)
        · simp at h
      · simp at h

/-- The path of a file determines the directory it lies in. -/
theorem SourceFile.Lies.dir_eq {root dir dir' : String} {f f' : SourceFile} (h : f.Lies root dir)
    (h' : f'.Lies root dir') (he : f.relPath = f'.relPath) : dir = dir' := by
  -- the names themselves need not be the same, since names that are no text may look alike
  obtain ⟨names, hne, rfl, hp⟩ := h.called
  obtain ⟨names', hne', rfl, hp'⟩ := h'.called
  rw [hp, hp', String.append_assoc, String.append_assoc] at he
  have hs : slashPath names = slashPath names' := by simpa using he
  exact slashPath_dropLast_eq hne hne' hs

section Scanned

variable {t : Tree} {project : Path} {root : String} {followLinks : Bool} {invs : List Inventory}

/-- The inventories of a scan are in the order of their directories. -/
theorem ascending_of_scan (h : (t.scan project root followLinks).result = .ok invs) :
    Ascending Inventory.dir invs := by
  obtain ⟨found, hfound, -⟩ := Tree.scan_eq_ok h
  exact (foldlM_takeStock_spec Ascending.nil hfound).1

/-- **A file in stock lies in the directory of its inventory.** -/
theorem lies_of_scan (h : (t.scan project root followLinks).result = .ok invs) {inv : Inventory}
    (hinv : inv ∈ invs) {f : SourceFile} (hf : f ∈ inv.files) : f.Lies (trimRoot root) inv.dir := by
  obtain ⟨found, hfound, hnames⟩ := Tree.scan_eq_ok h
  have hs := (foldlM_takeStock_spec Ascending.nil hfound).2 inv.dir f
  rcases hs.1 ⟨inv, hinv, rfl, hf⟩ with ⟨d, hd, hdir, rfl⟩ | hnone
  · obtain ⟨names, hd⟩ := hnames d hd
    rw [hdir]
    exact Discovered.lies_of_ofNames? hd
  · exact absurd hnone (stocked_nil _ _)

/-- An inventory has no name twice. -/
theorem Inventory.nodup_names (inv : Inventory) : inv.names.Nodup :=
  List.Pairwise.map _ (fun _ _ h => String.ne_of_lt h) inv.ascending

/-- **No file is in stock twice**, be it in one inventory or in two. -/
theorem nodup_files_of_scan (h : (t.scan project root followLinks).result = .ok invs) :
    (invs.flatMap Inventory.files).Nodup := by
  rw [List.nodup_flatMap]
  refine ⟨fun inv _ => inv.nodup_names.of_map _, ?_⟩
  -- a file of two inventories would lie in both their directories
  refine (ascending_of_scan h).imp_of_mem fun {inv inv'} hinv hinv' hlt => ?_
  intro f hf hf'
  have hdir := (lies_of_scan h hinv hf).dir_eq (lies_of_scan h hinv' hf') rfl
  exact String.ne_of_lt hlt hdir

end Scanned

end NativeBuild
