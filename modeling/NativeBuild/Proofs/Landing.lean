import NativeBuild.Proofs.Failure
import NativeBuild.Proofs.Retracing

/-!
# Where the fragment lands

A run writes its text to a temporary file and moves that to the output path. The temporary file has
a name that nothing mentions (`free_of_drawName`), so it is noticed by nobody: the output path lands
where it would land without it (`landing_of_unmentioned`), and the mode that is asked for is the
same (`modeFor_of_unmentioned`).

The move changes two places, the one where the temporary file was and the one where it lands
(`moveFile_eq_ok`). A link that lies there is replaced, and the way to the directory of the output
may have led through that very link. It is the only reason why the output path might not name the
file that was moved to it (`entryAtItself_iff_of_moved`).
-/

namespace NativeBuild

namespace Tree

variable {t t' : Tree} {d : Location} {n : Name} {output : Path}

/-! ### The temporary file -/

/-- A name that is drawn has not been taken. -/
theorem notMem_of_firstFree {taken : List Bytes} {tries k : Nat}
    (h : firstFree taken tries k = some n) :
    n.bytes ∉ taken := by
  induction tries generalizing k with
  | zero => exact absurd h (by unfold firstFree; simp)
  | succ tries ih =>
    unfold firstFree at h
    split at h
    · rename_i m hm
      obtain rfl := Option.some.inj h
      have hfree := (Option.filter_eq_some_iff.1 hm).2
      simpa using hfree
    · exact ih h

/-- A name **is free** for a path if neither the path nor any link mentions it. -/
structure Free (t : Tree) (p : Path) (n : Name) : Prop where
  notMem_link : ∀ k target, t.get? k = some (.link target) → n.bytes ∉ target.components
  notMem_path : n.bytes ∉ p.components

/-- **The name that is drawn** is free. -/
theorem free_of_drawName (h : t.drawName output = some n) : t.Free output n := by
  have hfree := notMem_of_firstFree h
  rw [List.mem_append, not_or] at hfree
  refine ⟨fun k target hget hmem => hfree.1 ?_, hfree.2⟩
  have hk : k ≠ [] := by
    rintro rfl
    simp at hget
  refine List.mem_flatMap.2 ⟨_, (get?_eq_some_iff hk).1 hget, ?_⟩
  exact List.mem_append_right _ hmem

/-- Directories that are made mention nothing. -/
theorem Free.of_gainsDirs {p : Path} (h : t.Free p n) (hgains : GainsDirs t t') : t'.Free p n := by
  refine ⟨fun k target hget => ?_, h.notMem_path⟩
  rcases hgains.gains k _ hget with hget | ⟨-, he⟩
  · exact h.notMem_link k target hget
  · simp at he

/-- **The steps along a path with a name at its end.** -/
theorem walk_join_path (p : Path) (n : Name) :
    (p.join n.path).walk = p.steps ++ [.down n.bytes] := by
  have hslash : Path.slash ∉ n.bytes := n.slash_notMem_bytes
  -- a name has no slash, so it begins no path anew and stays in one piece
  have hjoin : p.join n.path = ⟨p.front ++ n.bytes⟩ := by
    refine Path.eq_of_bytes_eq (bytes_join p fun hhead => hslash ?_)
    exact List.mem_of_head? hhead
  have hrun : (⟨n.bytes⟩ : Path).components = [n.bytes] := by
    refine Text.runs_of_forall n.bytes_ne_nil fun b hb => beq_false_of_ne ?_
    rintro rfl
    exact hslash hb
  rw [hjoin, Path.walk_of_bare (bare_append_name _ n), Path.steps, components_front_append, hrun,
    List.map_append, List.map_singleton, n.step_eq]
  rfl

/-- The vacant name at the end of a way is its last step. -/
theorem eq_of_follow_vacant {front : List Path.Step} {b : Bytes} {left : Nat}
    (h : t.follow false linkLimit [] (front ++ [.down b]) = .ok ⟨.vacant d n, left⟩) :
    n.bytes = b := by
  rw [follow_append (Or.inr (List.cons_ne_nil _ _))] at h
  split at h
  · rename_i there left' _
    rw [follow.eq_def] at h
    dsimp only at h
    split at h
    · cases hb : Name.ofBytes? b with
      | none => simp [hb] at h
      | some m =>
        rw [← Name.bytes_of_ofBytes? hb]
        -- only a name that nothing has is vacant
        cases hget : t.get? (there ++ [m]) with
        | none =>
          simp only [hb, hget, if_true, Except.ok.injEq, Arrival.mk.injEq, Place.vacant.injEq] at h
          rw [h.1.2]
        | some e => cases e <;> simp [hb, hget, follow] at h
    · simp at h
  · simp at h
  · simp at h

/-- **A file that is made** is empty, and has the name at the end of the path. -/
theorem createFile_join_eq_ok {p : Path} {name : Name} {mode : Nat}
    (h : t.createFile (p.join name.path) mode = .ok (t', d, n)) :
    n = name ∧ t'.get? (d ++ [n]) = some (.file [] mode) := by
  unfold createFile at h
  split at h
  · simp at h
  · simp at h
  · rename_i d' n' left hlocate
    split at h
    · rename_i hadmits
      simp only [Except.ok.injEq, Prod.mk.injEq] at h
      obtain ⟨rfl, rfl, rfl⟩ := h
      refine ⟨?_, by rw [get?_put, if_pos rfl]⟩
      unfold locate at hlocate
      split at hlocate
      · simp at hlocate
      · rw [walk_join_path] at hlocate
        exact Name.ext (eq_of_follow_vacant hlocate)
    · simp at h

/-- A file that is refilled has the new content and mode. -/
theorem get?_refill {c : Bytes} {m : Nat} (h : t.get? (d ++ [n]) = some (.file c m))
    (content : Bytes) (mode : Nat) :
    (t.refill d n content mode).get? (d ++ [n]) = some (.file content mode) := by
  have hadmits : t.Admits d n (.file content mode) := by
    refine ⟨isDir_of_get?_concat h, fun hdir => ?_⟩
    rw [isDir, h] at hdir
    simp at hdir
  rw [refill, dif_pos hadmits, get?_put, if_pos rfl]

/-! ### Moving -/

/-- Where no directory is, erasing concerns nothing else. -/
theorem get?_erase_of_ne {k l : Location} (hk : t.isDir k = false) (hl : l ≠ k) :
    (t.erase k).get? l = t.get? l := by
  by_cases hnil : l = []
  · subst hnil
    rw [get?_nil, get?_nil]
  · rw [get?_erase hnil]
    split
    · rename_i hbelow
      exact (get?_eq_none_below hk hbelow (Ne.symm hl)).symm
    · rfl

/-- **A file that is moved** is where it lands, and nowhere else. -/
theorem moveFile_eq_ok {p : Path} (h : t.moveFile d n p = .ok t') : ∃ d' n' content mode,
    t.landing p = .ok (d', n') ∧ t.get? (d ++ [n]) = some (.file content mode) ∧
      t.isDir (d' ++ [n']) = false ∧ t'.get? (d' ++ [n']) = some (.file content mode) ∧
      ∀ k, k ≠ d' ++ [n'] → t'.get? k = if k = d ++ [n] then none else t.get? k := by
  unfold moveFile at h
  split at h
  · simp at h
  · rename_i d' n' hlanding
    split at h
    · rename_i content mode hfile
      have hnot : t.isDir (d ++ [n]) = false := by
        rw [isDir, hfile]
        rfl
      split at h
      · -- it is there already
        rename_i heq
        obtain rfl := Except.ok.inj h
        refine ⟨d', n', content, mode, hlanding, hfile, heq ▸ hnot, heq ▸ hfile, fun k hk => ?_⟩
        rw [if_neg (heq ▸ hk)]
      · rename_i hne
        split at h
        · rename_i hadmits
          obtain rfl := Except.ok.inj h
          have hnot' : t.isDir (d' ++ [n']) = false := by
            by_contra hdir
            simpa using hadmits.2 (by simpa using hdir)
          have hput := get?_put hadmits
          have hfile' : (t.put d' n' (.file content mode) hadmits).get? (d ++ [n]) =
              some (.file content mode) := by
            rw [hput, if_neg hne, hfile]
          -- nothing lies below the file, so the place where it lands does not
          have hnot'' : (t.put d' n' (.file content mode) hadmits).isDir (d ++ [n]) = false := by
            rw [isDir, hfile']
            rfl
          refine ⟨d', n', content, mode, hlanding, hfile, hnot', ?_, fun k hk => ?_⟩
          · rw [get?_erase_of_ne hnot'' hne, hput, if_pos rfl]
          · split
            · rename_i hk'
              rw [hk', get?_erase (by simp), if_pos (List.prefix_refl _)]
            · rename_i hk'
              rw [get?_erase_of_ne hnot'' hk', hput, if_neg (Ne.symm hk)]
        · simp at h
    · simp at h

/-! ### A temporary file is not noticed -/

section Unmentioned

variable {p : Path} (hfree : t.Free p n) (hagree : ∀ k, n ∉ k → t'.get? k = t.get? k)

include hfree hagree

/-- Nor does it matter where the output lands. -/
theorem landing_of_unmentioned : t'.landing p = t.landing p := by
  have hsteps : ¬ Mentions p.steps.dropLast n :=
    fun hm => hfree.notMem_path (mem_components_of_down_mem_steps (List.dropLast_subset _ hm))
  have hfollow :
      t'.follow true linkLimit [] p.steps.dropLast = t.follow true linkLimit [] p.steps.dropLast :=
    follow_of_unmentioned hfree.notMem_link hagree List.not_mem_nil hsteps
  unfold landing
  rw [hfollow]
  split
  · rfl
  · split
    · rfl
    · rfl
    · rename_i hf
      have hd := notMem_of_follow hfree.notMem_link List.not_mem_nil hsteps hf
      rw [isDir, hagree _ hd, isDir]

/-- Nor which mode it gets. -/
theorem modeFor_of_unmentioned : t'.modeFor p = t.modeFor p := by
  have hsteps : ¬ Mentions p.walk n :=
    fun hm => hfree.notMem_path (mem_components_of_down_mem_walk hm)
  have hfollow : t'.follow true linkLimit [] p.walk = t.follow true linkLimit [] p.walk :=
    follow_of_unmentioned hfree.notMem_link hagree List.not_mem_nil hsteps
  have hresolve : t'.resolve p = t.resolve p := by rw [resolve, locate, hfollow, resolve, locate]
  have hentry : t'.entryAt p = t.entryAt p := by
    unfold entryAt
    rw [hresolve]
    cases hr : t.resolve p with
    | error fault => rfl
    | ok a =>
      -- where the path leads the trees agree
      have hq : n ∉ a.1 :=
        notMem_of_follow hfree.notMem_link List.not_mem_nil hsteps (resolve_eq_ok_iff.1 hr).2
      dsimp only
      rw [hagree a.1 hq]
  rw [modeFor, hentry, modeFor]

end Unmentioned

/-! ### The place where it lands -/

section Landing

variable {p : Path}

/-- **A file lands** under the last name along a path, in the directory that the steps before it
reach. -/
theorem landing_eq_ok_iff : t.landing p = .ok (d, n) ↔
    p.fault? = none ∧ t.Reaches p.steps.dropLast d ∧ t.isDir d = true ∧
      p.steps.getLast? = some (.down n.bytes) ∧ p.endsInSlash = false := by
  unfold landing
  constructor
  · -- the tests of `landing`, one by one
    intro h
    split at h
    · simp at h
    · rename_i hfault
      split at h
      · simp at h
      · simp at h
      · rename_i d' left hf
        split at h
        · simp at h
        · rename_i hdir
          split at h
          · simp at h
          · simp at h
          · simp at h
          · rename_i b hlast
            split at h
            · simp at h
            · rename_i m hb
              split at h
              · simp at h
              · rename_i hslash
                obtain ⟨rfl, rfl⟩ := Prod.mk.inj (Except.ok.inj h)
                refine ⟨hfault, ⟨left, hf⟩, by simpa using hdir, ?_, by simpa using hslash⟩
                rw [hlast, Name.bytes_of_ofBytes? hb]
  · rintro ⟨hfault, ⟨left, hf⟩, hdir, hlast, hslash⟩
    simp [hfault, hf, hdir, hlast, hslash, n.ofBytes?_bytes]

/-- A path that lands ends in the name of the file. -/
theorem walk_of_landing (h : t.landing p = .ok (d, n)) :
    p.walk = p.steps.dropLast ++ [.down n.bytes] := by
  obtain ⟨-, -, -, hlast, hslash⟩ := landing_eq_ok_iff.1 h
  rw [Path.walk, if_neg (by simp [hslash]), List.append_nil]
  exact (List.dropLast_append_getLast? _ hlast).symm

/-- A path **names** what its last step finds in the directory that the steps before it reach. -/
theorem entryAtItself_eq_some_iff {front : List Path.Step} {e : Entry} (hfault : p.fault? = none)
    (hwalk : p.walk = front ++ [.down n.bytes]) : t.entryAtItself p = some e ↔
      ∃ d, t.Reaches front d ∧ t.isDir d = true ∧ t.get? (d ++ [n]) = some e := by
  have hlocate : t.locate false p = t.follow false linkLimit [] (front ++ [.down n.bytes]) := by
    rw [locate, hfault, hwalk]
  rw [entryAtItself, hlocate, follow_append (Or.inr (List.cons_ne_nil _ _))]
  constructor
  · intro h
    split at h
    · rename_i l left hf
      split at hf
      · rename_i d left' hfront
        obtain ⟨hdir, -, m, -, hm, rfl, -⟩ := follow_down_eq_ok_iff.1 hf
        obtain rfl : n = m := Option.some.inj (n.ofBytes?_bytes.symm.trans hm)
        exact ⟨d, ⟨left', hfront⟩, hdir, h⟩
      · simp at hf
      · simp at hf
    · simp at h
  · -- the last step is not gone through, even if it is a link
    rintro ⟨d, ⟨left, hfront⟩, hdir, hget⟩
    have hlast : t.follow false left d [.down n.bytes] = .ok ⟨.occupied (d ++ [n]), left⟩ :=
      follow_down_eq_ok_iff.2 ⟨hdir, rfl, n, e, n.ofBytes?_bytes, rfl, hget⟩
    rw [hfront]
    simp only [hlast, hget]

end Landing

/-- A place where no link and no directory is may be erased, and what was reached is reached. -/
theorem Reaches.erase {steps : List Path.Step} {k : Location} (h : t.Reaches steps d)
    (hd : t.isDir d = true) (hk : t.isDir k = false)
    (hlink : ∀ target, t.get? k ≠ some (.link target)) :
    (t.erase k).Reaches steps d := by
  -- what is not there or is a file was not on the way
  cases hget : t.get? k with
  | none =>
    refine h.of_keeps fun l e he => ?_
    have hl : l ≠ k := by
      rintro rfl
      simp [hget] at he
    rw [get?_erase_of_ne hk hl, he]
  | some e =>
    cases e with
    | file content mode =>
      obtain ⟨left, hf⟩ := h
      have hne : d ≠ k := by
        rintro rfl
        simp [hd] at hk
      exact ⟨left, follow_of_file hget (fun l => get?_erase_of_ne hk) hne hf⟩
    | link target => exact absurd hget (hlink target)
    | dir => exact absurd hk (by simp [isDir, hget])

/-- **A path names the file that was moved to it** if the way to its directory does not lead through
a link that the file has replaced, and only then. -/
theorem entryAtItself_iff_of_moved {p : Path} {content : Bytes} {mode : Nat}
    (hlanding : t.landing p = .ok (d, n)) (hdir : t.isDir (d ++ [n]) = false)
    (hfile : t'.get? (d ++ [n]) = some (.file content mode))
    (hagree : AgreeOutside (d ++ [n]) t t') :
    t'.entryAtItself p = some (.file content mode) ↔
      ∀ target, t.get? (d ++ [n]) = some (.link target) →
        (t.erase (d ++ [n])).Reaches p.steps.dropLast d := by
  obtain ⟨hfault, hreaches, hd, -, -⟩ := landing_eq_ok_iff.1 hlanding
  rw [entryAtItself_eq_some_iff hfault (walk_of_landing hlanding)]
  have hgone : (t.erase (d ++ [n])).get? (d ++ [n]) = none := by
    rw [get?_erase (by simp), if_pos (List.prefix_refl _)]
  -- without what is at the place both trees are the same
  have herase : ∀ l, l ≠ d ++ [n] → (t.erase (d ++ [n])).get? l = t'.get? l :=
    fun l hl => (get?_erase_of_ne hdir hl).trans (hagree l hl).symm
  constructor
  · rintro ⟨d', ⟨left, hf⟩, hd', hget⟩ target hlink
    have hne : d' ≠ d ++ [n] := by
      rintro rfl
      simp [isDir, hfile] at hd'
    have hreaches' : (t.erase (d ++ [n])).Reaches p.steps.dropLast d' :=
      ⟨left, follow_of_file hfile herase hne hf⟩
    -- the way is the one that the move took
    have heq : d' = d := by
      refine Reaches.eq (hreaches'.of_keeps fun l e he => ?_) hreaches
      have hl : l ≠ d ++ [n] := by
        rintro rfl
        simp [hgone] at he
      rw [← get?_erase_of_ne hdir hl, he]
    exact heq ▸ hreaches'
  · intro h
    have hreaches' : (t.erase (d ++ [n])).Reaches p.steps.dropLast d := by
      by_cases hlink : ∃ target, t.get? (d ++ [n]) = some (.link target)
      · obtain ⟨target, hlink⟩ := hlink
        exact h target hlink
      · exact hreaches.erase hd hdir fun target hget => hlink ⟨target, hget⟩
    refine ⟨d, hreaches'.of_keeps fun l e he => ?_, isDir_of_get?_concat hfile, hfile⟩
    have hl : l ≠ d ++ [n] := by
      rintro rfl
      simp [hgone] at he
    rw [← herase l hl, he]

/-! ### When nothing stands in the way -/

/-- A file is created only at a path that can be asked for. -/
theorem fault?_of_createFile {p : Path} {mode : Nat} {x : Tree × Location × Name}
    (h : t.createFile p mode = .ok x) :
    p.fault? = none := by
  unfold createFile locate at h
  cases hfault : p.fault? with
  | none => rfl
  | some fault => simp [hfault] at h

/-- **A file is made** in a directory that has no entry of its name. -/
theorem createFile_of_reaches {p : Path} {mode : Nat} (hfault : (p.join n.path).fault? = none)
    (h : t.Reaches p.steps d) (hd : t.isDir d = true) (hnone : t.get? (d ++ [n]) = none) :
    ∃ t', t.createFile (p.join n.path) mode = .ok (t', d, n) := by
  obtain ⟨left, hf⟩ := h
  have hlast : t.follow false left d [.down n.bytes] = .ok ⟨.vacant d n, left⟩ := by
    rw [follow.eq_def]
    simp [hd, n.ofBytes?_bytes, hnone]
  have hlocate : t.locate false (p.join n.path) = .ok ⟨.vacant d n, left⟩ := by
    rw [locate, hfault, walk_join_path]
    dsimp only
    rw [follow_append (Or.inr (List.cons_ne_nil _ _)), hf]
    exact hlast
  -- nothing is there that a file could not replace
  have hadmits : t.Admits d n (.file [] mode) := by
    refine ⟨hd, fun hdir => ?_⟩
    rw [isDir, hnone] at hdir
    simp at hdir
  rw [createFile, hlocate]
  dsimp only
  rw [dif_pos hadmits]
  exact ⟨_, rfl⟩

/-- **A file is moved** to where no directory is. -/
theorem moveFile_of_landing {p : Path} {d' : Location} {n' : Name} {content : Bytes} {mode : Nat}
    (hlanding : t.landing p = .ok (d', n')) (hfile : t.get? (d ++ [n]) = some (.file content mode))
    (hroom : t.isDir (d' ++ [n']) = false) : ∃ t', t.moveFile d n p = .ok t' := by
  obtain ⟨-, -, hd', -, -⟩ := landing_eq_ok_iff.1 hlanding
  have hadmits : t.Admits d' n' (.file content mode) :=
    ⟨hd', fun hdir => absurd hdir (by simp [hroom])⟩
  rw [moveFile, hlanding]
  dsimp only
  rw [hfile]
  dsimp only
  rw [dif_pos hadmits]
  split
  · exact ⟨_, rfl⟩
  · exact ⟨_, rfl⟩

/-- **What was written is read** at the path where it lies. -/
theorem readText_of_landing {p : Path} {text : String} {mode : Nat}
    (hlanding : t.landing p = .ok (d, n))
    (hfile : t.get? (d ++ [n]) = some (.file (Utf8.encode text.toList) mode)) :
    t.readText p = .ok text := by
  obtain ⟨hfault, ⟨left, hf⟩, hd, -, -⟩ := landing_eq_ok_iff.1 hlanding
  have hresolve : t.resolve p = .ok (d ++ [n], left) := by
    refine resolve_eq_ok_iff.2 ⟨hfault, ?_⟩
    rw [walk_of_landing hlanding, follow_append (Or.inl rfl), hf]
    dsimp only
    rw [follow_down_of_get? hd n.ofBytes?_bytes hfile (by simp), follow]
  have hentry : t.entryAt p = .ok (.file (Utf8.encode text.toList) mode) :=
    entryAt_eq_ok_iff.2 ⟨_, left, hresolve, hfile⟩
  rw [readText, readBytes, hentry]
  dsimp only
  rw [Utf8.decode?_encode]
  exact congrArg Except.ok String.ofList_toList

end Tree

end NativeBuild
