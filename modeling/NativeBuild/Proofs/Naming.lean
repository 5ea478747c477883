import NativeBuild.Proofs.Utf8
import NativeBuild.Scan
import NativeBuild.Target.Grouping

/-!
# Names with slashes

A directory is called by the names on the way to it with slashes between them, and a target by its
directory, a slash and the key of its group. Both are the same construction, `qualifiedName`, and it
loses nothing as long as what comes last has no slash of its own:

* `qualifiedName_inj`: a qualified name determines its directory and its key;
* `slashPath_append_singleton`: the path of an entry is its name, qualified by the path of its
  directory.

No name of a file tree has a slash, and neither has a text that is read from a part of one
(`slash_notMem_display`, `slash_notMem_stem`).
-/

namespace NativeBuild

/-! ### Qualified names -/

/-- Two texts that end in slash-free parts after a slash agree part by part. -/
theorem append_slash_inj {l₁ l₂ r₁ r₂ : List Char} (h : l₁ ++ '/' :: r₁ = l₂ ++ '/' :: r₂)
    (h₁ : '/' ∉ r₁) (h₂ : '/' ∉ r₂) : l₁ = l₂ ∧ r₁ = r₂ := by
  -- one front is longer than the other by `m`; were there anything in `m`, a slash would come after
  -- it
  rcases List.append_eq_append_iff.1 h with ⟨m, hl, hr⟩ | ⟨m, hl, hr⟩
  · cases m with
    | nil => simpa [hl] using hr
    | cons x m =>
      rw [List.cons_append, List.cons.injEq] at hr
      exact absurd (by simp [hr.2]) h₁
  · cases m with
    | nil => simpa [hl, eq_comm] using hr
    | cons x m =>
      rw [List.cons_append, List.cons.injEq] at hr
      exact absurd (by simp [hr.2]) h₂

/-- Below a directory a key stands behind a slash. -/
theorem toList_qualifiedName {dir : String} (hd : dir ≠ "") (key : String) :
    (qualifiedName dir key).toList = dir.toList ++ '/' :: key.toList := by
  rw [qualifiedName, if_neg hd]
  simp

/-- **A qualified name is read in one way**: the key is what follows the last slash. -/
theorem qualifiedName_inj {dir dir' key key' : String} (hk : '/' ∉ key.toList)
    (hk' : '/' ∉ key'.toList) (h : qualifiedName dir key = qualifiedName dir' key') :
    dir = dir' ∧ key = key' := by
  -- a key alone has no slash, a key below a directory has one in front
  by_cases hd : dir = "" <;> by_cases hd' : dir' = ""
  · subst hd hd'
    exact ⟨rfl, by simpa [qualifiedName] using h⟩
  · have hl := toList_qualifiedName hd' key'
    rw [← h, hd, qualifiedName, if_pos rfl] at hl
    exact absurd (by simp [hl]) hk
  · have hl := toList_qualifiedName hd key
    rw [h, hd', qualifiedName, if_pos rfl] at hl
    exact absurd (by simp [hl]) hk'
  · -- both keys are below directories, so cut both at the last slash
    have hl := congrArg String.toList h
    rw [toList_qualifiedName hd, toList_qualifiedName hd'] at hl
    obtain ⟨hdir, hkey⟩ := append_slash_inj hl hk hk'
    exact ⟨String.toList_inj.1 hdir, String.toList_inj.1 hkey⟩

/-! ### Names of a file tree -/

/-- A name is not empty and **has no slash**, neither in its bytes nor as it is shown. -/
theorem Name.slash_notMem_bytes (n : Name) : Path.slash ∉ n.bytes := by
  have h := n.isName_bytes
  simp only [Name.isName, Bool.and_eq_true, Bool.not_eq_true', List.contains_eq_mem,
    decide_eq_false_iff_not] at h
  exact h.1.1.1.2

theorem Name.bytes_ne_nil (n : Name) : n.bytes ≠ [] := by
  have h := n.isName_bytes
  simp only [Name.isName, Bool.and_eq_true, bne_iff_ne] at h
  exact h.1.1.1.1.1

theorem Name.slash_notMem_display (n : Name) : '/' ∉ n.display.toList := by
  rw [Name.display, Path.display, String.toList_ofList]
  exact Utf8.notMem_decodeLossy (by decide) (by decide) n.slash_notMem_bytes

theorem Name.display_ne_empty (n : Name) : n.display ≠ "" := by
  intro h
  have hl := congrArg String.toList h
  rw [Name.display, Path.display, String.toList_ofList, String.toList_empty] at hl
  exact n.bytes_ne_nil (Utf8.decodeLossy_eq_nil_iff.1 hl)

theorem Name.mem_of_mem_split {n : Name} {b : UInt8} (h : b ∈ n.split.1) : b ∈ n.bytes := by
  unfold Name.split at h
  simp only at h
  split at h
  · exact h
  · exact h
  · rename_i x stem hx hdrop
    -- the stem is what is left, read backwards, when the last dot has been dropped
    have hsub : (x :: stem) <:+ n.bytes.reverse := hdrop ▸ List.dropWhile_suffix _
    exact List.mem_reverse.1 (hsub.subset (List.mem_cons_of_mem _ (List.mem_reverse.1 h)))

/-- A stem that is text has no slash. -/
theorem Name.slash_notMem_stem {n : Name} {cs : List Char} (h : Utf8.decode? n.split.1 = some cs) :
    '/' ∉ cs :=
  Utf8.notMem_of_decode? h (by decide) (by decide)
    fun hm => n.slash_notMem_bytes (Name.mem_of_mem_split hm)

/-! ### Paths of names -/

/-- Only the way to the root itself is called by nothing. -/
theorem slashPath_eq_empty_iff {names : List Name} : slashPath names = "" ↔ names = [] := by
  constructor
  · intro h
    cases names with
    | nil => rfl
    | cons n rest =>
      -- one name shows as something, and two have a slash between them
      cases rest with
      | nil =>
        rw [slashPath, List.map_cons, List.map_nil, String.intercalate_singleton] at h
        exact absurd h n.display_ne_empty
      | cons m rest =>
        have hl := congrArg String.toList h
        rw [slashPath, List.map_cons, List.map_cons, String.intercalate_cons_cons] at hl
        simp at hl
  · rintro rfl
    rfl

/-- The path of an entry is its name, qualified by the path of its directory. -/
theorem slashPath_append_singleton (names : List Name) (n : Name) :
    slashPath (names ++ [n]) = qualifiedName (slashPath names) n.display := by
  by_cases h : names = []
  · subst h
    simp [slashPath, qualifiedName]
  · rw [qualifiedName, if_neg fun he => h (slashPath_eq_empty_iff.1 he), slashPath, List.map_append,
      String.intercalate_append_of_ne_nil (by simpa using h) (by simp), List.map_cons, List.map_nil,
      String.intercalate_singleton]
    rfl

/-- The path of an entry determines the path of its directory. -/
theorem slashPath_dropLast_eq {names names' : List Name} (hn : names ≠ []) (hn' : names' ≠ [])
    (h : slashPath names = slashPath names') :
    slashPath names.dropLast = slashPath names'.dropLast := by
  rw [← List.dropLast_concat_getLast hn, ← List.dropLast_concat_getLast hn',
    slashPath_append_singleton, slashPath_append_singleton] at h
  exact (qualifiedName_inj (Name.slash_notMem_display _) (Name.slash_notMem_display _) h).1

end NativeBuild
