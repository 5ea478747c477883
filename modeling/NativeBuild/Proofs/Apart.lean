import NativeBuild.Proofs.Listing

/-!
# Keeping directories apart

A scan knows a directory by the text of the names on the way to it. As long as these names are text,
the text determines them, and so a refusal for two files of one name is due to two files that lie in
one directory, and whatever is in one inventory lies in one directory (`Tree.scan_keeps_apart`).
This holds whether links are followed or not: names on a way may be names of links, and the same
names always lead to the same directory.

Names that are no text may read alike, and then a scan takes different directories for one
(`TwinProject.scan_confuses`).
-/

namespace NativeBuild

namespace Tree

variable {t : Tree} {project : Path} {root : String} {followLinks : Bool} {l p : Location}
  {links left : Nat}

/-- The names of all **directories and links are text**; those of files may be anything. -/
def WaysAreText (t : Tree) : Prop := ∀ d n e, t.get? (d ++ [n]) = some e →
  (∀ content mode, e ≠ .file content mode) → n.IsText

/-- All **names are text**. -/
def NamesAreText (t : Tree) : Prop := ∀ d n e, t.get? (d ++ [n]) = some e → n.IsText

theorem NamesAreText.waysAreText (h : t.NamesAreText) : t.WaysAreText :=
  fun d n e hget _ => h d n e hget

/-- It is enough to look at the entries that are listed. -/
theorem namesAreText_of_entries (h : ∀ x ∈ t.entries, ∀ n ∈ x.1.getLast?, n.IsText) :
    t.NamesAreText :=
  fun _ n _ hget => h _ (mem_entries_of_get? hget) n (by simp)

/-- The names on a way to a directory are text, since each of them names a directory or a link. -/
theorem isText_of_leads (htext : t.WaysAreText) {d : List Name} (h : t.Leads links l d p left)
    (hp : t.isDir p = true) : ∀ n ∈ d, n.IsText := by
  -- on the names, from where the first of them leads
  induction d generalizing l links with
  | nil => exact fun n hn => absurd hn List.not_mem_nil
  | cons n d ih =>
    obtain ⟨q, k, hn, hrest⟩ := leads_cons_iff.1 h
    refine List.forall_mem_cons.2 ⟨?_, ih hrest⟩
    obtain ⟨-, ⟨e, hget, -, rfl, -⟩ | ⟨target, hget, -⟩⟩ := leads_singleton_iff.1 hn
    · refine htext l n e hget ?_
      rintro content mode rfl
      -- a file is where names end, but these go on to a directory
      have hnodir : t.isDir (l ++ [n]) = false := by simp [isDir, hget]
      obtain rfl := eq_nil_of_leads hrest hnodir
      obtain ⟨rfl, -⟩ := leads_nil_iff.1 hrest
      exact absurd hp (by simp [hnodir])
    · exact htext l n _ hget (by simp)

/-- **The way to a file** leads to a directory first, and from there by one name. -/
theorem exists_of_fileAt {d : List Name} {n : Name} (h : t.FileAt followLinks links l (d ++ [n])) :
    ∃ p left, t.Leads links l d p left ∧ t.isDir p = true ∧ (followLinks = false → p = l ++ d) ∧
      t.FileAt followLinks left p [n] := by
  obtain ⟨q, k, content, mode, hleads, hget, hplace⟩ := h
  obtain ⟨p, left, hd, hn⟩ := leads_append_iff.1 hleads
  -- a way that follows no links goes down by the names alone
  have hdown : followLinks = false → p = l ++ d := by
    intro hf
    rw [hplace hf, ← List.append_assoc] at hget
    exact (hd.eq (leads_of_isDir (isDir_of_get?_concat hget))).1
  refine ⟨p, left, hd, (leads_singleton_iff.1 hn).1, hdown, q, k, content, mode, hn, hget,
    fun hf => ?_⟩
  rw [hplace hf, hdown hf, List.append_assoc]

/-- The way to a directory and from there to a file is a way to the file. -/
theorem FileAt.append {d : List Name} {n : Name} (hd : t.Leads links l d p left)
    (hdown : followLinks = false → p = l ++ d) (h : t.FileAt followLinks left p [n]) :
    t.FileAt followLinks links l (d ++ [n]) := by
  obtain ⟨q, k, content, mode, hn, hget, hplace⟩ := h
  refine ⟨q, k, content, mode, leads_append_iff.2 ⟨p, left, hd, hn⟩, hget, fun hf => ?_⟩
  rw [hplace hf, hdown hf, List.append_assoc]

/-- Two source files in directories that are called the same lie in one directory. -/
theorem dirs_eq_of_slashPath_eq (htext : t.WaysAreText) {s s' : SourceNames}
    (hs : t.FileAt followLinks links l s.names) (hs' : t.FileAt followLinks links l s'.names)
    (h : slashPath s.dirs = slashPath s'.dirs) : s.dirs = s'.dirs := by
  obtain ⟨p, left, hd, hp, -⟩ := exists_of_fileAt hs
  obtain ⟨p', left', hd', hp', -⟩ := exists_of_fileAt hs'
  exact slashPath_inj (isText_of_leads htext hd hp) (isText_of_leads htext hd' hp') h

/-- **A scan keeps directories apart** if their names are text. -/
theorem scan_keeps_apart (htext : t.WaysAreText) :
    (∀ place name first second,
      (t.scan project root followLinks).result = .error (.duplicateName place name first second) →
      first ∈ sourceExtensions ∧ second ∈ sourceExtensions ∧
      ∃ l links d p left n n', t.resolve (rootPath project root) = .ok (l, links) ∧
        t.Leads links l d p left ∧ t.isDir p = true ∧ n ≠ n' ∧
        n.bytes = Utf8.encode (name ++ "." ++ first).toList ∧ t.FileAt followLinks left p [n] ∧
        n'.bytes = Utf8.encode (name ++ "." ++ second).toList ∧ t.FileAt followLinks left p [n']) ∧
    ∀ invs, (t.scan project root followLinks).result = .ok invs → ∀ inv ∈ invs,
      ∃ l links d p left, t.resolve (rootPath project root) = .ok (l, links) ∧
        t.Leads links l d p left ∧ t.isDir p = true ∧ ∀ f ∈ inv.files, ∃ n,
          f.path = WalkFault.pathFrom (rootPath project root) (d ++ [n]) ∧
            t.FileAt followLinks left p [n] := by
  constructor
  · intro place name first second h
    obtain ⟨-, l, links, hr, -, s, s', ⟨hne, hs, hs', hcalled, hstem⟩, rfl, rfl, rfl⟩ :=
      clash_of_scan h
    have hdirs := dirs_eq_of_slashPath_eq htext hs hs' hcalled
    obtain ⟨p, left, hd, hp, -, hfile⟩ := exists_of_fileAt hs
    obtain ⟨p', left', hd', -, -, hfile'⟩ := exists_of_fileAt hs'
    rw [← hdirs] at hd'
    -- the same names lead to the same directory
    obtain ⟨rfl, rfl⟩ := hd.eq hd'
    refine ⟨s.ext_mem, s'.ext_mem, l, links, s.dirs, p, left, s.last, s'.last, hr, hd, hp, ?_,
      s.bytes_last, hfile, hstem ▸ s'.bytes_last, hfile'⟩
    intro hlast
    exact hne (by rw [SourceNames.names, SourceNames.names, hdirs, hlast])
  · intro invs h inv hinv
    obtain ⟨-, ⟨-, rfl⟩ | ⟨l, links, hr, hdir, -⟩⟩ := scan_eq_ok_iff.1 h
    · exact absurd hinv List.not_mem_nil
    -- one of the files says where all of them lie
    have hmem : ∀ f ∈ inv.files, ∃ s : SourceNames, t.FileAt followLinks links l s.names ∧
        slashPath s.dirs = inv.dir ∧
        (s.discovered (rootPath project root) (trimRoot root)).file = f :=
      fun f hf => (stocked_iff_of_scan h hr hdir).1 ⟨inv, hinv, rfl, hf⟩
    obtain ⟨f₀, hf₀⟩ := List.exists_mem_of_ne_nil _ (files_ne_nil_of_scan h inv hinv)
    obtain ⟨s₀, hs₀, hcalled₀, -⟩ := hmem f₀ hf₀
    obtain ⟨p, left, hd, hp, -⟩ := exists_of_fileAt hs₀
    refine ⟨l, links, s₀.dirs, p, left, hr, hd, hp, fun f hf => ?_⟩
    obtain ⟨s, hs, hcalled, rfl⟩ := hmem f hf
    have hdirs := dirs_eq_of_slashPath_eq htext hs hs₀ (hcalled.trans hcalled₀.symm)
    obtain ⟨p', left', hd', -, -, hfile⟩ := exists_of_fileAt hs
    rw [hdirs] at hd'
    obtain ⟨rfl, rfl⟩ := hd.eq hd'
    exact ⟨s.last, by rw [← hdirs]; rfl, hfile⟩

end Tree

/-- The files below the module root of the small project are in two inventories, for they lie in two
directories. -/
theorem smallProject_keeps_apart :
    (∀ place name first second, (SmallProject.tree.scan (.ofString ".") "src" false).result =
        .error (.duplicateName place name first second) →
      first ∈ sourceExtensions ∧ second ∈ sourceExtensions ∧
      ∃ l links d p left n n',
        SmallProject.tree.resolve (rootPath (.ofString ".") "src") = .ok (l, links) ∧
        SmallProject.tree.Leads links l d p left ∧ SmallProject.tree.isDir p = true ∧ n ≠ n' ∧
        n.bytes = Utf8.encode (name ++ "." ++ first).toList ∧
        SmallProject.tree.FileAt false left p [n] ∧
        n'.bytes = Utf8.encode (name ++ "." ++ second).toList ∧
        SmallProject.tree.FileAt false left p [n']) ∧
    ∀ invs, (SmallProject.tree.scan (.ofString ".") "src" false).result = .ok invs → ∀ inv ∈ invs,
      ∃ l links d p left,
        SmallProject.tree.resolve (rootPath (.ofString ".") "src") = .ok (l, links) ∧
        SmallProject.tree.Leads links l d p left ∧ SmallProject.tree.isDir p = true ∧
        ∀ f ∈ inv.files, ∃ n,
          f.path = WalkFault.pathFrom (rootPath (.ofString ".") "src") (d ++ [n]) ∧
            SmallProject.tree.FileAt false left p [n] :=
  Tree.scan_keeps_apart (Tree.namesAreText_of_entries (by decide_cbv)).waysAreText

/-! ### Names that read alike -/

namespace TwinProject

/-- Two names that are no text, and that both read as the sign for what is none. -/
def first : Name := ⟨[0xFE], by decide⟩

/-- And one more. -/
def second : Name := ⟨[0xFF], by decide⟩

/-- Two directories with one file each, of the given names. -/
def entries (n m : Name) : Entries :=
  [([SmallProject.src], .dir), ([SmallProject.src, first], .dir),
    ([SmallProject.src, first, n], SmallProject.text ""), ([SmallProject.src, second], .dir),
    ([SmallProject.src, second, m], SmallProject.text "")]

/-- The files of both directories have one name. -/
def clashing : Tree where
  entries := entries (SmallProject.file) (SmallProject.file)
  ascending := by
    unfold Ascending
    decide_cbv
  closed := SmallProject.closed_of_dropLast (by decide_cbv)

/-- The files of the directories have different names. -/
def mixing : Tree where
  entries := entries (SmallProject.file) (SmallProject.name "b.c")
  ascending := by
    unfold Ascending
    decide_cbv
  closed := SmallProject.closed_of_dropLast (by decide_cbv)

/-- **Names that are no text confuse a scan**: it is refused for two files of one name though no
directory holds two, and it takes files of two directories into one inventory. -/
theorem scan_confuses :
    (∀ k stem ext ext', clashing.HoldsSource k stem ext → clashing.HoldsSource k stem ext' →
      ext = ext') ∧
    (∃ place, (clashing.scan (.ofString ".") "src" false).result =
      .error (.duplicateName place "a" "c" "c")) ∧
    (mixing.scan (.ofString ".") "src" false).result.map
      (·.map fun inv => inv.files.map (·.path.parent?)) =
      .ok [[some ⟨Utf8.encode "./src/".toList ++ [0xFE]⟩,
        some ⟨Utf8.encode "./src/".toList ++ [0xFF]⟩]] :=
  ⟨fun _ _ _ _ => Tree.ext_eq_of_entries (by decide_cbv), ⟨_, by cbv⟩, by cbv⟩

end TwinProject

end NativeBuild
