import NativeBuild.Proofs.Encoding
import NativeBuild.Proofs.Naming
import Mathlib.Data.List.Induction
import Mathlib.Data.List.TakeWhile

/-!
# How names are spelled

A scan spells the names on the way to a file in two ways: as bytes, in the path under which the file
is opened, and as text, in what the inventory says of it. The two agree as long as the names are
text (`Name.IsText`), and then what the text says determines the names
(`Name.display_inj`, `slashPath_inj`).

`Name.split_eq_some_iff` says what the stem and the extension of a name are. Names on the way to a
source file are `SourceNames`, and those are the names that a scan takes for one
(`Discovered.ofNames?_eq_some_iff`).
-/

namespace NativeBuild

/-! ### Names that are text -/

/-- Is the name text, so that reading it for a message loses nothing? -/
def Name.IsText (n : Name) : Prop := (Utf8.decode? n.bytes).isSome = true

namespace Name

variable {n m : Name}

instance (n : Name) : Decidable n.IsText := inferInstanceAs (Decidable (_ = true))

theorem display_of_bytes_eq {cs : List Char} (h : n.bytes = Utf8.encode cs) :
    n.display = String.ofList cs := by
  rw [display, Path.display, path, h, Utf8.decodeLossy_encode]

theorem isText_of_bytes_eq {cs : List Char} (h : n.bytes = Utf8.encode cs) : n.IsText := by
  rw [IsText, h, Utf8.decode?_encode]
  rfl

theorem encode_display (h : n.IsText) : Utf8.encode n.display.toList = n.bytes := by
  obtain ⟨cs, hcs⟩ := Option.isSome_iff_exists.1 h
  have hbytes := Utf8.decode?_eq_some_iff_encode.1 hcs
  rw [display_of_bytes_eq hbytes, String.toList_ofList, hbytes]

theorem display_inj (hn : n.IsText) (hm : m.IsText) (h : n.display = m.display) : n = m := by
  apply Name.ext
  rw [← encode_display hn, ← encode_display hm, h]

end Name

theorem display_inj_of_forall_isText {ns ms : List Name} (hns : ∀ n ∈ ns, n.IsText)
    (hms : ∀ m ∈ ms, m.IsText) (h : ns.map Name.display = ms.map Name.display) : ns = ms := by
  induction ns generalizing ms with
  | nil => exact (List.map_eq_nil_iff.1 h.symm).symm
  | cons n ns ih =>
    obtain ⟨m, ms, rfl, hm, hrest⟩ := List.map_eq_cons_iff.1 h.symm
    rw [List.forall_mem_cons] at hns hms
    rw [Name.display_inj hns.1 hms.1 hm.symm, ih hns.2 hms.2 hrest.symm]

/-- **What names are called together** says what each of them is called. -/
theorem map_display_of_slashPath_eq {ns ms : List Name} (h : slashPath ns = slashPath ms) :
    ns.map Name.display = ms.map Name.display := by
  induction ns using List.reverseRecOn generalizing ms with
  | nil => rw [slashPath_eq_empty_iff.1 (h.symm.trans (slashPath_eq_empty_iff.2 rfl))]
  | append_singleton ns n ih =>
    have hms : ms ≠ [] := by
      rintro rfl
      exact absurd (slashPath_eq_empty_iff.1 (h.trans (slashPath_eq_empty_iff.2 rfl))) (by simp)
    -- the last names are what follows the last slash
    rw [← List.dropLast_concat_getLast hms] at h ⊢
    rw [slashPath_append_singleton, slashPath_append_singleton] at h
    obtain ⟨hfront, hlast⟩ := qualifiedName_inj n.slash_notMem_display
      (Name.slash_notMem_display _) h
    rw [List.map_append, List.map_append, ih hfront, List.map_singleton, List.map_singleton, hlast]

theorem slashPath_inj {ns ms : List Name} (hns : ∀ n ∈ ns, n.IsText) (hms : ∀ m ∈ ms, m.IsText)
    (h : slashPath ns = slashPath ms) : ns = ms :=
  display_inj_of_forall_isText hns hms (map_display_of_slashPath_eq h)

/-! ### Stem and extension -/

namespace Name

/-- **The extension is what follows the last dot**, unless the dot is the first byte. -/
theorem split_eq_some_iff {n : Name} {stem ext : Bytes} : n.split = (stem, some ext) ↔
    n.bytes = stem ++ Path.dot :: ext ∧ stem ≠ [] ∧ Path.dot ∉ ext := by
  have hcut := List.takeWhile_append_dropWhile (p := (· != Path.dot)) (l := n.bytes.reverse)
  have hback : ∀ b ∈ n.bytes.reverse.takeWhile (· != Path.dot), b ≠ Path.dot := by
    intro b hb
    simpa using List.mem_takeWhile_imp hb
  unfold split
  dsimp only
  constructor
  · intro h
    split at h
    · simp at h
    · simp at h
    · rename_i x rest hrest hdrop
      obtain ⟨rfl, rfl⟩ : rest.reverse = stem ∧ _ = ext := by simpa using h
      -- what the second part begins with is the dot
      have hx : x = Path.dot := by
        have := List.head?_dropWhile_not (p := (· != Path.dot)) (l := n.bytes.reverse)
        rw [hdrop] at this
        simpa using this
      subst hx
      rw [hdrop] at hcut
      refine ⟨?_, ?_, ?_⟩
      · have := congrArg List.reverse hcut
        simpa using this.symm
      · exact fun hnil => hrest (List.reverse_eq_nil_iff.1 hnil)
      · intro hmem
        exact hback _ (List.mem_reverse.1 hmem) rfl
  · rintro ⟨hbytes, hstem, hext⟩
    have hreverse : n.bytes.reverse = ext.reverse ++ Path.dot :: stem.reverse := by
      rw [hbytes]
      simp
    have hall : ∀ b ∈ ext.reverse, (b != Path.dot) = true := by
      intro b hb
      refine bne_iff_ne.2 ?_
      rintro rfl
      exact hext (List.mem_reverse.1 hb)
    have htake : n.bytes.reverse.takeWhile (· != Path.dot) = ext.reverse := by
      rw [hreverse, List.takeWhile_append_of_pos hall]
      simp
    have hdrop : n.bytes.reverse.dropWhile (· != Path.dot) = Path.dot :: stem.reverse := by
      rw [hreverse, List.dropWhile_append_of_pos hall]
      simp
    rw [hdrop, htake]
    obtain ⟨b, r, hr⟩ := List.exists_cons_of_ne_nil (List.reverse_ne_nil_iff.2 hstem)
    rw [hr]
    dsimp only
    rw [← hr, List.reverse_reverse, List.reverse_reverse]

end Name

/-! ### Source files -/

/-- The names on the way to a **source file**: the directories, and the name of the file, which is a
stem and an extension that source files have. -/
structure SourceNames where
  dirs : List Name
  last : Name
  stem : String
  ext : String
  bytes_last : last.bytes = Utf8.encode (stem ++ "." ++ ext).toList
  stem_ne : stem ≠ ""
  ext_mem : ext ∈ sourceExtensions

namespace SourceNames

/-- All the names, one after the other. -/
def names (s : SourceNames) : List Name := s.dirs ++ [s.last]

/-- What a scan notes of the source file; `base` is the path of the root. -/
def discovered (s : SourceNames) (base : Path) (root : String) : Discovered :=
  let path := WalkFault.pathFrom base s.names
  { dir := slashPath s.dirs
    place := path.parent?.getD base
    file := ⟨path, root ++ "/" ++ slashPath s.names, s.stem, s.ext⟩ }

/-- The last name is read as stem and extension with a dot between them. -/
theorem display_last (s : SourceNames) : s.last.display = s.stem ++ "." ++ s.ext := by
  rw [Name.display_of_bytes_eq s.bytes_last, String.ofList_toList]

theorem isText_last (s : SourceNames) : s.last.IsText := Name.isText_of_bytes_eq s.bytes_last

/-- Names are known by the directories, the stem and the extension. -/
theorem names_eq {s s' : SourceNames} (hdirs : s.dirs = s'.dirs) (hstem : s.stem = s'.stem)
    (hext : s.ext = s'.ext) :
    s.names = s'.names := by
  have hlast : s.last = s'.last := by
    apply Name.ext
    rw [s.bytes_last, s'.bytes_last, hstem, hext]
  rw [names, names, hdirs, hlast]

end SourceNames

/-- The extensions of source files have no dot, so that a file name is cut in front of one. -/
theorem bytes_split_of_sourceExtension (stem : String) {ext : String}
    (hext : ext ∈ sourceExtensions) :
    Utf8.encode (stem ++ "." ++ ext).toList =
        Utf8.encode stem.toList ++ Path.dot :: Utf8.encode ext.toList ∧
      Path.dot ∉ Utf8.encode ext.toList := by
  constructor
  · rw [String.toList_append, String.toList_append, List.append_assoc, Utf8.encode_append,
      Utf8.encode_append]
    rfl
  · have hall : ∀ e ∈ sourceExtensions, Path.dot ∉ Utf8.encode e.toList := by decide_cbv
    exact hall ext hext

/-- **What a scan takes for a source file.** -/
theorem Discovered.ofNames?_eq_some_iff {base : Path} {root : String} {names : List Name}
    {d : Discovered} : Discovered.ofNames? base root names = some d ↔
      ∃ s : SourceNames, s.names = names ∧ s.discovered base root = d := by
  constructor
  · intro h
    unfold Discovered.ofNames? at h
    split at h
    · simp at h
    · rename_i last hlast
      obtain ⟨front, rfl⟩ := List.getLast?_eq_some_iff.1 hlast
      split at h
      · simp at h
      · rename_i stem ext hsplit
        split at h
        · rename_i stemText extText hstem hext
          split at h
          · rename_i hmem
            obtain ⟨hbytes, hne, -⟩ := Name.split_eq_some_iff.1 hsplit
            have hs := Utf8.decode?_eq_some_iff_encode.1 hstem
            have he := Utf8.decode?_eq_some_iff_encode.1 hext
            -- put together again, the parts are the name
            have hlast : last.bytes =
                Utf8.encode (String.ofList stemText ++ "." ++ String.ofList extText).toList := by
              rw [(bytes_split_of_sourceExtension _ hmem).1, hbytes, hs, he, String.toList_ofList,
                String.toList_ofList]
            have hstemNe : String.ofList stemText ≠ "" := by
              intro hempty
              refine hne ?_
              rw [hs, String.ofList_eq_empty_iff.1 hempty]
              rfl
            refine ⟨⟨front, last, _, _, hlast, hstemNe, hmem⟩, rfl, ?_⟩
            rw [← Option.some.inj h, List.dropLast_concat]
            rfl
          · simp at h
        · simp at h
  · -- the name is cut where it was put together, because the extension has no dot
    rintro ⟨⟨front, last, stem, ext, hbytes, hstem, hext⟩, rfl, rfl⟩
    obtain ⟨hcut, hdot⟩ := bytes_split_of_sourceExtension stem hext
    have hne : Utf8.encode stem.toList ≠ [] := by
      intro hnil
      refine hstem (String.toList_inj.1 (Utf8.encode_injective ?_))
      rw [hnil]
      rfl
    have hsplit := Name.split_eq_some_iff.2 ⟨hbytes.trans hcut, hne, hdot⟩
    unfold Discovered.ofNames? SourceNames.names
    simp only [List.getLast?_concat, hsplit, Utf8.decode?_encode, String.ofList_toList,
      hext, if_true, List.dropLast_concat]
    rfl

end NativeBuild
