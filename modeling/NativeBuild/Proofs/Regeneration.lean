import NativeBuild.Proofs.Emission
import NativeBuild.Proofs.Lines
import NativeBuild.Proofs.Rescanning

/-!
# Generating again

A run changes the tree that the next run reads. In a tree without links the next run nevertheless
does the same, and what it writes differs in nothing but the time.

The tree that a run leaves resembles the one it found (`Emits.resembles`), unless the fragment is
called like a source file. So the plan is the same. The first run has mentioned no name that was not
in the output path already, so the temporary file gets the same name again (`Emits.drawName_eq`).
Then nothing that has to be done can fail: the directories are there, there is room for the
temporary file, and the output path lands where it landed, which is a file now (`install_again`).
The time stands on the second line of the text and nowhere else (`Fragment.sameButTimes_text`).

There is one way in which a repeated run fails. The first run may make a directory below a root, and
the path by which a walk comes to it may be longer than a path can be, although the output path is
short. `DottedRoot` is a project of this kind, and `NewDirsFit` excludes it.
-/

namespace NativeBuild

/-- The steps down to the directory of a file are steps down to the file. -/
theorem Path.mem_components_of_down_mem_directory {p : Path} {b : Bytes}
    (h : .down b ∈ p.directory.steps) :
    b ∈ p.components := by
  -- where there is no parent, the directory is the one that we are in
  have hempty : Step.down b ∉ (ofString ".").steps := by
    have hsteps : (ofString ".").steps = [.here] := by decide_cbv
    simp [hsteps]
  unfold directory at h
  split at h
  · rename_i above habove
    split at h
    · exact absurd h hempty
    · obtain ⟨c, hc, he⟩ := List.mem_map.1 h
      obtain ⟨rfl, hdot⟩ := Step.down_eq_ofComponent he
      exact (components_of_parent? habove c hc).resolve_left hdot
  · exact absurd h hempty

/-- The name of a source file ends in its extension. -/
theorem SourceNames.ext_suffix (s : SourceNames) :
    Utf8.encode ("." ++ s.ext).toList <:+ s.last.bytes := by
  have hchars : (s.stem ++ "." ++ s.ext).toList = s.stem.toList ++ ("." ++ s.ext).toList := by
    rw [String.append_assoc, String.toList_append]
  rw [s.bytes_last, hchars, Utf8.encode_append]
  exact List.suffix_append _ _

namespace Tree

variable {t t' t₁ : Tree} {d : Location} {n name : Name} {output : Path} {content : Bytes}

/-! ### The name of the temporary file -/

/-- Which name is free depends on the names that are taken, not on their order. -/
theorem firstFree_congr {taken taken' : List Bytes} (h : ∀ b, b ∈ taken ↔ b ∈ taken')
    (tries k : Nat) :
    firstFree taken tries k = firstFree taken' tries k := by
  have hfree : (fun n : Name => !taken.contains n.bytes) = fun n => !taken'.contains n.bytes := by
    funext n
    rw [Bool.eq_iff_iff]
    simp [h]
  -- on the tries that are left
  induction tries generalizing k with
  | zero =>
    unfold firstFree
    rfl
  | succ tries ih =>
    unfold firstFree
    rw [hfree, ih]

/-- Without links a tree mentions the names of its entries. -/
theorem mem_mentioned_iff (hlinks : t.NoLinks) {b : Bytes} :
    b ∈ t.mentioned ↔ ∃ k m e, t.get? (k ++ [m]) = some e ∧ m.bytes = b := by
  rw [mentioned, List.mem_flatMap]
  constructor
  · -- without links only the names of entries are mentioned
    rintro ⟨⟨l, e⟩, hmem, hb⟩
    obtain ⟨k, m, hl, -⟩ := t.closed _ hmem
    dsimp only at hl
    subst hl
    have hget := (get?_eq_some_iff (by simp)).2 hmem
    rcases List.mem_append.1 hb with hb | hb
    · exact ⟨k, m, e, hget, by simpa [eq_comm] using hb⟩
    · cases e with
      | link target => exact absurd hget (hlinks _ target)
      | file content mode => simp at hb
      | dir => simp at hb
  · rintro ⟨k, m, e, hget, rfl⟩
    exact ⟨_, (get?_eq_some_iff (by simp)).1 hget, List.mem_append_left _ (by simp)⟩

namespace Emits

variable (h : t.Emits output content t₁ t' d n) (hlinks : t.NoLinks)

include h

/-- The name of the output is one of its components. -/
theorem mem_components : n.bytes ∈ output.components := by
  obtain ⟨-, -, -, hlast, -⟩ := landing_eq_ok_iff.1 h.lands
  exact mem_components_of_down_mem_steps (List.mem_of_getLast? hlast)

/-- What is emitted is no source file if the output path does not end like one. -/
theorem last_ne
    (hname : ∀ ext ∈ sourceExtensions, ¬ Utf8.encode ("." ++ ext).toList <:+ output.bytes)
    (s : SourceNames) : s.last ≠ n := by
  rintro rfl
  obtain ⟨-, -, -, hlast, hslash⟩ := landing_eq_ok_iff.1 h.lands
  exact hname s.ext s.ext_mem (s.ext_suffix.trans (Path.suffix_of_getLast?_steps hlast hslash))

/-- Directories are kept. -/
theorem keepsDirs {k : Location} (hk : t₁.isDir k = true) : t'.isDir k = true := by
  have hne : k ≠ d ++ [n] := by
    rintro rfl
    simp [h.room] at hk
  rwa [isDir, h.others k hne]

include hlinks

/-- A tree without links gets none. -/
theorem noLinks_made : t₁.NoLinks := by
  intro k target hget
  rcases h.gainsDirs.gains k _ hget with hget | ⟨-, he⟩
  · exact hlinks k target hget
  · simp at he

/-- Neither are there links afterwards. -/
theorem noLinks : t'.NoLinks := by
  intro k target hget
  by_cases hk : k = d ++ [n]
  · rw [hk, h.file] at hget
    simp at hget
  · rw [h.others k hk] at hget
    exact h.noLinks_made hlinks k target hget

/-- Each new entry has a name of the output path. -/
theorem mem_components_of_new {k : Location} {m : Name} {e : Entry}
    (hnone : t.get? (k ++ [m]) = none)
    (hget : t'.get? (k ++ [m]) = some e) : m.bytes ∈ output.components := by
  by_cases hk : k ++ [m] = d ++ [n]
  · obtain ⟨-, hm⟩ := List.append_inj' hk rfl
    rw [(List.cons.inj hm).1]
    exact h.mem_components
  · -- a directory on the way to the output
    rw [h.others _ hk] at hget
    have hdir : t₁.isDir (k ++ [m]) = true := by
      rcases h.gainsDirs.gains _ _ hget with hold | ⟨-, rfl⟩
      · rw [hnone] at hold
        simp at hold
      · exact decide_eq_true hget
    obtain ⟨front, back, hsteps, left, hf⟩ := h.onTheWay _ hnone hdir
    by_contra hnot
    have hmentions : ¬ Mentions front m :=
      fun hm =>
        hnot (Path.mem_components_of_down_mem_directory (hsteps ▸ List.mem_append_left _ hm))
    have hnotMem :=
      notMem_of_follow (fun k target hget => absurd hget (h.noLinks_made hlinks k target))
      List.not_mem_nil hmentions hf
    simp at hnotMem

/-- **The same names are taken afterwards**, so the same one is drawn. -/
theorem mem_taken_iff {b : Bytes} :
    b ∈ t'.mentioned ++ output.components ↔ b ∈ t.mentioned ++ output.components := by
  rw [List.mem_append, List.mem_append, mem_mentioned_iff (h.noLinks hlinks),
    mem_mentioned_iff hlinks]
  -- new entries are named after components of the output, which are taken in any case
  constructor
  · rintro (⟨k, m, e, hget, rfl⟩ | hb)
    · cases hold : t.get? (k ++ [m]) with
      | none => exact Or.inr (h.mem_components_of_new hlinks hold hget)
      | some e' => exact Or.inl ⟨k, m, e', hold, rfl⟩
    · exact Or.inr hb
  · rintro (⟨k, m, e, hget, rfl⟩ | hb)
    · by_cases hk : k ++ [m] = d ++ [n]
      · exact Or.inl ⟨k, m, _, hk ▸ h.file, rfl⟩
      · exact Or.inl ⟨k, m, e, (h.others _ hk).trans (h.gainsDirs.keeps _ _ hget), rfl⟩
    · exact Or.inr hb

/-- **The temporary file has the same name again.** -/
theorem drawName_eq : t'.drawName output = t.drawName output :=
  firstFree_congr (fun _ => h.mem_taken_iff hlinks) _ _

/-- The output lands where it landed. -/
theorem lands_again : t'.landing output = .ok (d, n) := by
  obtain ⟨hfault, ⟨left, hf⟩, hd, hlast, hslash⟩ := landing_eq_ok_iff.1 h.lands
  have hf' := follow_of_dirs (h.noLinks_made hlinks) (fun _ => h.keepsDirs) hf hd
  exact landing_eq_ok_iff.2 ⟨hfault, ⟨left, hf'⟩, h.keepsDirs hd, hlast, hslash⟩

/-- **The tree resembles the one before** if it has not emitted a source file. -/
theorem resembles (hname : ∀ s : SourceNames, s.last ≠ n) : t.Resembles t' where
  noLinks := hlinks
  noLinks' := h.noLinks hlinks
  keepsDirs k hk := h.keepsDirs (decide_eq_true (h.gainsDirs.keeps k _ (decide_eq_true_iff.1 hk)))
  newDirs k hnow hbefore := by
    have hne : k ≠ d ++ [n] := by
      rintro rfl
      simp [isDir, h.file] at hnow
    rw [isDir, h.others k hne] at hnow
    rcases h.gainsDirs.gains k _ (decide_eq_true_iff.1 hnow) with hold | ⟨hnone, -⟩
    · simp [isDir, hold] at hbefore
    · exact hnone
  sources k s content mode := by
    -- a source is not the output
    have hne : k ++ s.names ≠ d ++ [n] := by
      intro heq
      rw [SourceNames.names, ← List.append_assoc] at heq
      exact hname s (List.cons.inj (List.append_inj' heq rfl).2).1
    rw [h.others _ hne]
    constructor
    · intro hget
      rcases h.gainsDirs.gains _ _ hget with hold | ⟨-, he⟩
      · exact hold
      · simp at he
    · exact h.gainsDirs.keeps _ _

end Emits

/-! ### Installing again -/

/-- **What was installed can be installed again**, under the same name for the temporary file. -/
theorem install_again {text text' : String} (hlinks : t.NoLinks)
    (hdrawn : t.drawName output = some name)
    (hinstalled : t.install (some name) output text = (t', .ok ()))
    (h : t.Emits output content t₁ t' d n) :
    ∃ t'', t'.install (t'.drawName output) output text' = (t'', .ok ()) := by
  have hlinks' := h.noLinks hlinks
  have hnew := notMem_of_firstFree hdrawn
  rw [← h.mem_taken_iff hlinks, List.mem_append, not_or] at hnew
  have hfree : t'.Free output name := ⟨fun k target hget => absurd hget (hlinks' k target), hnew.2⟩
  -- the directories are there
  obtain ⟨hfault, ⟨q, ⟨left, hq⟩, hdir⟩, -⟩ := makeDirs_eq_ok h.made
  have hreaches : t'.Reaches output.directory.steps q :=
    ⟨left, follow_of_dirs (h.noLinks_made hlinks) (fun _ => h.keepsDirs) hq hdir⟩
  have hmade : t'.makeDirs output.directory = (t', .ok ()) :=
    makeDirs_of_reaches hfault hreaches (h.keepsDirs hdir)
  -- so is the place for the temporary file
  have hfits : (output.directory.join name.path).fault? = none := by
    obtain ⟨t₂, name', created, e, m, -, hname, hcreated, -⟩ := install_eq_ok_iff.1 hinstalled
    obtain rfl := Option.some.inj hname
    exact fault?_of_createFile hcreated
  have hnone : t'.get? (q ++ [name]) = none := by
    cases hget : t'.get? (q ++ [name]) with
    | none => rfl
    | some e => exact absurd ((mem_mentioned_iff hlinks').2 ⟨q, name, e, hget, rfl⟩) hnew.1
  obtain ⟨created, hcreated⟩ := createFile_of_reaches hfits hreaches (h.keepsDirs hdir) hnone
  obtain ⟨-, hempty⟩ := createFile_join_eq_ok hcreated
  generalize hready : created.prepare q name (Utf8.encode text'.toList) output = ready
  obtain ⟨mode, hfile⟩ :
      ∃ mode, ready.get? (q ++ [name]) = some (.file (Utf8.encode text'.toList) mode) :=
    ⟨_, hready ▸ get?_prepare hempty⟩
  have hagree : AgreeOutside (q ++ [name]) t' ready := by
    rw [← hready]
    exact (createFile_eq_ok hcreated).2.trans (agreeOutside_prepare created q name _ output)
  -- and it is moved to where the file lies that is there now
  have hlanding : ready.landing output = .ok (d, n) := by
    rw [← h.lands_again hlinks]
    refine landing_of_unmentioned hfree fun k hk => hagree k ?_
    rintro rfl
    simp at hk
  have hroom : ready.isDir (d ++ [n]) = false := by
    by_cases heq : d ++ [n] = q ++ [name]
    · rw [heq, isDir, hfile]
      rfl
    · rw [isDir, hagree _ heq, h.file]
      rfl
  obtain ⟨t'', hmoved⟩ := moveFile_of_landing hlanding hfile hroom
  rw [h.drawName_eq hlinks, hdrawn]
  exact ⟨t'',
    install_eq_ok_iff.2 ⟨t', name, created, q, name, hmade, rfl, hcreated, hready ▸ hmoved⟩⟩

end Tree

/-! ### The text -/

/-- Two texts are **the same but for the times** that are written on their second lines. -/
def SameButTimes (w₁ w₂ : Timestamp) (s₁ s₂ : String) : Prop :=
  ∃ front back : String, front.toList.count '\n' = 1 ∧ back.toList.head? = some '\n' ∧
    '\n' ∉ w₁.text.toList ∧ '\n' ∉ w₂.text.toList ∧
      s₁ = front ++ w₁.text ++ back ∧ s₂ = front ++ w₂.text ++ back

namespace Fragment

/-- The time stands on one line of the header. -/
theorem exists_header_eq : ∃ warning label : String, '\n' ∉ warning.toList ∧ '\n' ∉ label.toList ∧
    ∀ written, header written = [warning, label ++ written.text, ""] :=
  ⟨_, _, by simp, by simp, fun _ => rfl⟩

/-- **The time of writing** is on the second line and nowhere else. -/
theorem sameButTimes_text (p : BuildPlan) (w₁ w₂ : Timestamp) :
    SameButTimes w₁ w₂ (text p w₁) (text p w₂) := by
  obtain ⟨warning, label, hwarning, hlabel, hheader⟩ := exists_header_eq
  obtain ⟨rest, hrest⟩ : ∃ rest : String, ∀ written, text p written =
      String.join ((header written).map (· ++ "\n")) ++ rest := by
    refine ⟨String.join ((defaultLines ++ compileRules.flatMap CompileRule.lines ++
      p.targets.flatMap (fun t => stanza t ++ [""]) ++
      [assignment manifestVariable (p.modules.map Target.name)]).map (· ++ "\n")),
      fun written => ?_⟩
    rw [text, lines, List.append_assoc, List.append_assoc, List.append_assoc, List.map_append,
      String.join_append]
    simp only [List.append_assoc]
  -- what is in front of the time and behind it does not depend on it
  have htext : ∀ written, text p written =
      (warning ++ "\n" ++ label) ++ written.text ++ ("\n\n" ++ rest) := by
    intro written
    rw [hrest, hheader]
    refine String.toList_inj.1 ?_
    simp
  refine ⟨_, _, ?_, ?_, newline_notMem_written w₁, newline_notMem_written w₂, htext w₁, htext w₂⟩
  · simp [List.count_eq_zero.2 hwarning, List.count_eq_zero.2 hlabel]
  · simp

end Fragment

namespace Tree

variable {t : Tree} {project : Path} {config : Config} {w₁ w₂ : Timestamp} {r : Report}

/-- The empty path is the directory from which all others are followed. -/
theorem reaches_of_project (h : project.bytes = [] ∨ t.isDirAt project = true) :
    ∃ d, t.Reaches project.steps d ∧ t.isDir d = true := by
  rcases h with hnil | hdir
  · have hsteps : project.steps = [] := by
      rw [Path.steps, Path.components, hnil, Text.runs_nil, List.map_nil]
    exact ⟨[], ⟨linkLimit, by rw [hsteps, follow]⟩, rfl⟩
  · exact (reaches_of_isDirAt hdir).2

/-- **A run that is repeated succeeds again**, in a tree without links, and what it writes differs
only in the time. The roots must not go up, the output must not be called like a source file, and
the directories that the first run makes below a root must not be too deep to be entered. -/
theorem generate_again (hlinks : t.NoLinks)
    (hproject : project.bytes = [] ∨ t.isDirAt project = true)
    (hup : ∀ root ∈ [config.archiveRoot, config.moduleRoot],
      Path.Step.up ∉ (Path.ofString root).steps)
    (hname : ∀ ext ∈ sourceExtensions,
      ¬ Utf8.encode ("." ++ ext).toList <:+ (config.outputPath project).bytes)
    (hfits : ∀ root ∈ [config.archiveRoot, config.moduleRoot],
      t.NewDirsFit (t.generate project config w₁).1 project root)
    (h : (t.generate project config w₁).2.result = .ok r) :
    ((t.generate project config w₁).1.generate project config w₂).2.result = .ok r ∧
      ∃ s₁ s₂, (t.generate project config w₁).1.readText r.output = .ok s₁ ∧
        ((t.generate project config w₁).1.generate project config w₂).1.readText r.output = .ok s₂ ∧
        SameButTimes w₁ w₂ s₁ s₂ := by
  obtain ⟨p, hplan, hinstalled, rfl⟩ := generateAs_eq_ok h
  generalize ht' : (t.generate project config w₁).1 = t' at hfits ⊢
  rw [← generate, ht'] at hinstalled
  obtain ⟨t₁, d, n, hemits⟩ := emits_of_install (fun name => free_of_drawName) hinstalled
  -- the plan is the same, because no source file was written
  have hplan' : (t'.plan project config).result = .ok p :=
    (hemits.resembles hlinks (hemits.last_ne hname)).plan_eq (reaches_of_project hproject) hup
      hfits hplan
  -- and the text is installed where it was
  obtain ⟨-, name, -, -, -, -, hdrawn, -⟩ := install_eq_ok_iff.1 hinstalled
  rw [hdrawn] at hinstalled
  obtain ⟨t'', hagain⟩ :
      ∃ t'', t'.install (t'.drawName (config.outputPath project)) (config.outputPath project)
      (Fragment.text p w₂) = (t'', .ok ()) := install_again hlinks hdrawn hinstalled hemits
  obtain ⟨hresult, htree⟩ := generateAs_of_install hplan' hagain
  rw [← generate] at hresult htree
  obtain ⟨t₂, d', n', hemits'⟩ := emits_of_install (fun name => free_of_drawName) hagain
  refine ⟨hresult, Fragment.text p w₁, Fragment.text p w₂, ?_, ?_,
    Fragment.sameButTimes_text p w₁ w₂⟩
  · exact readText_of_landing (hemits.lands_again hlinks) hemits.file
  · rw [htree]
    exact readText_of_landing (hemits'.lands_again (hemits.noLinks hlinks)) hemits'.file

end Tree

namespace SmallProject

/-- A configuration under which the fragment goes to a new directory below a root. -/
def inside : Config := { Config.default with output := .ofString "src/gen/native.mk" }

theorem plan_inside : (tree.plan (.ofString ".") inside).result = .ok plan := plan_eq

/-- The name is free. -/
theorem drawName_inside :
    tree.drawName (.ofString "./src/gen/native.mk") = some (name ".tmp000000") := by decide

/-- All that is below a root has a short path from there. -/
theorem install_inside (text : String) :
    ∃ t,
      tree.install (some (name ".tmp000000")) (.ofString "./src/gen/native.mk") text = (t, .ok ()) ∧
      (t.entries.all fun x => x.1.length ≤ 4 ∧
        ["lib", "src"].all fun root => (List.range 4).all fun j =>
        (WalkFault.pathFrom (rootPath (.ofString ".") root) (x.1.drop j)).fits) = true := by
  unfold Tree.install
  generalize Utf8.encode text.toList = content
  exact ⟨_, by cbv, by cbv⟩

theorem outputPath_inside :
    inside.outputPath (.ofString ".") = .ofString "./src/gen/native.mk" := by cbv

/-- The first generation goes well, and what it makes fits below both roots. -/
theorem generate_inside (written : Timestamp) :
    (tree.generate (.ofString ".") inside written).2.result =
      .ok ⟨.ofString "./src/gen/native.mk", 1, 2⟩ ∧
      ∀ root ∈ ["lib", "src"],
        tree.NewDirsFit (tree.generate (.ofString ".") inside written).1 (.ofString ".") root := by
  obtain ⟨t, hinstalled, hfits⟩ := install_inside (Fragment.text plan written)
  rw [← drawName_inside, ← outputPath_inside] at hinstalled
  obtain ⟨hresult, htree⟩ := Tree.generateAs_of_install plan_inside hinstalled
  rw [← Tree.generate] at hresult htree
  rw [hresult, htree, outputPath_inside]
  refine ⟨rfl, fun root hroot l left d _ hd hnow _ => ?_⟩
  -- a directory below a root is one of the entries, seen from a little further down
  have hmem : (l ++ d, Entry.dir) ∈ t.entries :=
    (Tree.get?_eq_some_iff (by simp [hd])).1 (decide_eq_true_iff.1 hnow)
  have hentry := List.all_eq_true.1 hfits _ hmem
  simp only [Bool.decide_and, Bool.and_eq_true, decide_eq_true_eq, List.all_eq_true,
    List.mem_range] at hentry
  have hlength : l.length < 4 := by
    have hpos := List.length_pos_iff.2 hd
    have hle := hentry.1
    rw [List.length_append] at hle
    omega
  have hfit := hentry.2 root hroot l.length hlength
  rwa [List.drop_left] at hfit

theorem noLinks : tree.NoLinks := Tree.noLinks_of_entries (by simp [tree, text])

end SmallProject

/-- The small project, generated twice. -/
theorem smallProject_generate_again :
    SmallProject.tree.NoLinks ∧ SmallProject.tree.isDirAt (.ofString ".") = true ∧
      ((SmallProject.tree.generate (.ofString ".") SmallProject.inside ⟨0, 0⟩).1.generate
          (.ofString ".")
          SmallProject.inside ⟨60, 0⟩).2.result = .ok ⟨.ofString "./src/gen/native.mk", 1, 2⟩ ∧
      ∃ s₁ s₂, (SmallProject.tree.generate (.ofString ".") SmallProject.inside ⟨0, 0⟩).1.readText
          (.ofString "./src/gen/native.mk") = .ok s₁ ∧
        ((SmallProject.tree.generate (.ofString ".") SmallProject.inside ⟨0, 0⟩).1.generate
          (.ofString ".")
          SmallProject.inside ⟨60, 0⟩).1.readText (.ofString "./src/gen/native.mk") = .ok s₂ ∧
        SameButTimes ⟨0, 0⟩ ⟨60, 0⟩ s₁ s₂ := by
  have hproject : SmallProject.tree.isDirAt (.ofString ".") = true := by cbv
  have hup : ∀ root ∈ ["lib", "src"], Path.Step.up ∉ (Path.ofString root).steps := by decide_cbv
  have hname : ∀ ext ∈ sourceExtensions, ¬ Utf8.encode ("." ++ ext).toList <:+
      (SmallProject.inside.outputPath (.ofString ".")).bytes := by
    rw [SmallProject.outputPath_inside]
    decide_cbv
  obtain ⟨hresult, hfits⟩ := SmallProject.generate_inside ⟨0, 0⟩
  exact ⟨SmallProject.noLinks, hproject,
    Tree.generate_again SmallProject.noLinks (Or.inr hproject) hup hname hfits hresult⟩

/-! ### A root with many dots

A root may be spelled with as many dots as there is room for, and it is the same directory. A
directory that is made in it then has no path that can be followed. -/

namespace DottedRoot

variable {k : Nat} {t : Tree}

/-- The path of dots, with a slash in front of each. -/
def dots (k : Nat) : List Char := (List.replicate k ['/', '.']).flatten

/-- The root `src` with dots behind it. -/
def root (k : Nat) : String := String.ofList ("src".toList ++ dots k)

/-- A project with an empty root. -/
def tree : Tree where
  entries := [([SmallProject.src], .dir)]
  ascending := by
    unfold Ascending
    decide_cbv
  closed := SmallProject.closed_of_dropLast (by decide_cbv)

/-- The fragment goes to a new directory below the root. -/
def config (k : Nat) : Config :=
  { Config.default with moduleRoot := root k, output := .ofString "src/build/native.mk" }

theorem moduleRoot_config (k : Nat) : (config k).moduleRoot = root k := rfl

/-- One more idle step. -/
theorem dots_succ (k : Nat) : dots (k + 1) = dots k ++ ['/', '.'] := by
  simp [dots, List.replicate_succ']

theorem length_encode_dots (k : Nat) : (Utf8.encode (dots k)).length = 2 * k := by
  induction k with
  | zero => rfl
  | succ k ih =>
    have hlast : (Utf8.encode ['/', '.']).length = 2 := by decide_cbv
    rw [dots_succ, Utf8.encode_append, List.length_append, ih, hlast, Nat.mul_succ]

/-- Dots are components of their own, and no steps down. -/
theorem steps_dots (bs : Bytes) (k : Nat) :
    (⟨bs ++ Utf8.encode (dots k)⟩ : Path).steps = (⟨bs⟩ : Path).steps ++
      List.replicate k .here := by
  induction k with
  | zero => simp [dots]
  | succ k ih =>
    have hlast : Utf8.encode ['/', '.'] = [Path.slash, Path.dot] := by decide_cbv
    have hdot : Path.Step.ofComponent [Path.dot] = .here := by decide
    have hcut := components_append_slash (bs ++ Utf8.encode (dots k)) (List.cons_ne_nil Path.dot [])
      (by decide : Path.slash ∉ [Path.dot])
    rw [dots_succ, Utf8.encode_append, hlast, ← List.append_assoc, Path.steps, hcut,
      List.map_append, List.replicate_succ', ← List.append_assoc, ← ih, List.map_singleton, hdot]
    rfl

/-- The root begins with no slash. -/
theorem checkRoot_root (k : Nat) : checkRoot (root k) = .ok () := by
  rw [root, checkRoot, String.toList_ofList]
  decide_cbv

theorem up_notMem_steps_root (k : Nat) : Path.Step.up ∉ (Path.ofString (root k)).steps := by
  have hsrc : (⟨Utf8.encode "src".toList⟩ : Path).steps = [.down SmallProject.src.bytes] := by cbv
  have hsteps :
      (Path.ofString (root k)).steps = .down SmallProject.src.bytes :: List.replicate k .here := by
    rw [Path.ofString, root, String.toList_ofList, Utf8.encode_append, steps_dots, hsrc,
      List.singleton_append]
  rw [hsteps]
  simp

theorem trimRoot_root (hk : 0 < k) : trimRoot (root k) = root k := by
  obtain ⟨j, rfl⟩ := Nat.exists_eq_add_one_of_ne_zero hk.ne'
  refine String.toList_inj.1 ?_
  have hend : (root (j + 1)).toList = "src".toList ++ (dots j ++ ['/']) ++ ['.'] := by
    rw [root, String.toList_ofList, dots_succ]
    simp
  rw [toList_trimRoot, hend, List.rdropWhile_concat_neg _ _ _ (by decide)]

/-- The path of the root. -/
theorem rootPath_root (hk : 0 < k) :
    rootPath (.ofString ".") (root k) = ⟨Utf8.encode "./src".toList ++ Utf8.encode (dots k)⟩ := by
  have hfront :
      (Path.ofString ".").front ++ Utf8.encode "src".toList = Utf8.encode "./src".toList := by cbv
  refine Path.eq_of_bytes_eq ?_
  rw [bytes_rootPath (checkRoot_root k), trimRoot_root hk, root, String.toList_ofList,
    Utf8.encode_append, ← List.append_assoc, hfront]

theorem length_rootPath_root (hk : 0 < k) :
    (rootPath (.ofString ".") (root k)).bytes.length = 2 * k + 5 := by
  have hsrc : (Utf8.encode "./src".toList).length = 5 := by decide_cbv
  rw [rootPath_root hk, List.length_append, length_encode_dots, hsrc, Nat.add_comm]

/-- There is no NUL in it. -/
theorem zero_notMem_encode_dots (k : Nat) : 0 ∉ Utf8.encode (dots k) := by
  induction k with
  | zero => exact List.not_mem_nil
  | succ k ih =>
    have hlast : 0 ∉ Utf8.encode ['/', '.'] := by decide_cbv
    rw [dots_succ, Utf8.encode_append, List.mem_append, not_or]
    exact ⟨ih, hlast⟩

/-- As long as it can be followed, the path of the root leads to the directory. -/
theorem resolve_root (hk : 0 < k) (hfits : k ≤ 2045) (h : t.isDir [SmallProject.src] = true) :
    t.resolve (rootPath (.ofString ".") (root k)) = .ok ([SmallProject.src], linkLimit) := by
  -- the root is short enough as it stands
  have hfault : (rootPath (.ofString ".") (root k)).fault? = none := by
    have hzero : ¬ (rootPath (.ofString ".") (root k)).bytes.contains 0 = true := by
      have hsrc : 0 ∉ Utf8.encode "./src".toList := by decide_cbv
      rw [List.contains_iff_mem, rootPath_root hk, List.mem_append]
      exact not_or.2 ⟨hsrc, zero_notMem_encode_dots k⟩
    have hlength : (rootPath (.ofString ".") (root k)).fits = true := by
      rw [Path.fits, length_rootPath_root hk, Path.lengthLimit, decide_eq_true_iff]
      omega
    rw [Path.fault?, if_neg hzero, if_neg (bare_rootPath (checkRoot_root k)).1, if_pos hlength]
  refine Tree.resolve_eq_ok_iff.2 ⟨hfault, ?_⟩
  have hsteps : (rootPath (.ofString ".") (root k)).walk =
      [.here, .down SmallProject.src.bytes] ++ List.replicate k .here := by
    have hfront :
        (⟨Utf8.encode "./src".toList⟩ : Path).steps = [.here, .down SmallProject.src.bytes] := by
      cbv
    rw [Path.walk_of_bare (bare_rootPath (checkRoot_root k)), rootPath_root hk, steps_dots, hfront]
  have hdown : t.follow true linkLimit [] [.here, .down SmallProject.src.bytes] =
      .ok ⟨.occupied [SmallProject.src], linkLimit⟩ := by
    have htop : t.isDir [] = true := rfl
    rw [Tree.follow, if_pos htop]
    rw [Tree.follow_down_of_get? htop SmallProject.src.ofBytes?_bytes (decide_eq_true_iff.1 h)
      (by simp)]
    rw [Tree.follow, List.nil_append]
  -- the dots lead nowhere
  have hdots : t.follow true linkLimit [SmallProject.src] (List.replicate k .here) =
      .ok ⟨.occupied [SmallProject.src], linkLimit⟩ := by
    have hidle : t.follow true linkLimit [SmallProject.src] (List.replicate k .here ++ []) =
        t.follow true linkLimit [SmallProject.src] [] := Tree.follow_replicate_here h k []
    rwa [List.append_nil, Tree.follow] at hidle
  rw [hsteps, Tree.follow_append (Or.inl rfl), hdown]
  exact hdots

/-- As long as its root can be asked for, the project has a plan, and it is empty. -/
theorem plan_eq (hk : 0 < k) (hfits : k ≤ 2045) :
    (tree.plan (.ofString ".") (config k)).result = .ok WindingProject.nothing := by
  have hlib : (tree.scan (.ofString ".") "lib" false).result = .ok [] := by cbv
  -- nothing is below the root
  have hbelow : tree.below [SmallProject.src] = [] := by cbv
  have hdir : tree.isDir [SmallProject.src] = true := by cbv
  have hwalk :
      tree.walk (reachable (rootPath (.ofString ".") (root k))) false [SmallProject.src] linkLimit =
        pure () := by
    rw [Tree.walk_false, hbelow]
    rfl
  have hfound : tree.found (.ofString ".") (root k) false [SmallProject.src] linkLimit = [] := by
    rw [Tree.found, hwalk]
    rfl
  have hsrc : (tree.scan (.ofString ".") (root k) false).result = .ok [] := by
    refine Tree.scan_eq_ok_iff.2 ⟨checkRoot_root k,
      Or.inr ⟨_, _, resolve_root hk hfits hdir, hdir, ?_, ?_⟩⟩
    · rw [hfound]
      rfl
    · rw [hwalk]
      rfl
  have hnone : ∀ inv : Inventory, inv ∈ [] → Answered tree.directivesOf inv.files :=
    fun inv hinv => absurd hinv List.not_mem_nil
  have harchives : (tree.targetsOf (.ofString ".") (config k) "lib" .archive).result = .ok [] :=
    Tree.targetsOf_eq_ok_iff.2 ⟨[], hlib, hnone, rfl⟩
  have hmodules : (tree.targetsOf (.ofString ".") (config k) (root k) .module).result = .ok [] :=
    Tree.targetsOf_eq_ok_iff.2 ⟨[], hsrc, hnone, rfl⟩
  have hcheck : checkRoot "lib" = .ok () := by decide_cbv
  refine Tree.plan_eq_ok_iff.2 ?_
  rw [moduleRoot_config]
  exact ⟨hcheck, checkRoot_root k, harchives, [], hmodules, rfl⟩

theorem drawName_eq :
    tree.drawName (.ofString "./src/build/native.mk") = some (SmallProject.name ".tmp000000") := by
  decide

/-- The output makes a directory below the root. -/
theorem install_eq (text : String) :
    ∃ t,
      tree.install (some (SmallProject.name ".tmp000000")) (.ofString
        "./src/build/native.mk") text = (t, .ok ()) ∧
      t.isDir [SmallProject.src] = true ∧
      t.isDir [SmallProject.src, SmallProject.name "build"] = true := by
  unfold Tree.install
  generalize Utf8.encode text.toList = content
  exact ⟨_, by cbv, by cbv, by cbv⟩

theorem outputPath_config (k : Nat) :
    (config k).outputPath (.ofString ".") = .ofString "./src/build/native.mk" := by
  change (Path.ofString ".").join (.ofString "src/build/native.mk") = _
  cbv

/-- Where the root holds a directory of five letters, no second run has a plan. -/
theorem plan_ne_ok (hk : 2043 ≤ k) (hfits : k ≤ 2045) (hlinks : t.NoLinks)
    (hsrc : t.isDir [SmallProject.src] = true)
    (hbuild : t.isDir [SmallProject.src, SmallProject.name "build"] = true) (p : BuildPlan) :
    (t.plan (.ofString ".") (config k)).result ≠ .ok p := by
  intro hplan
  have hmissing : tree.isDir ([SmallProject.src] ++ [SmallProject.name "build"]) = false := by cbv
  -- with the new directory below it the root would have to leave room for its name
  have hreach : (WalkFault.pathFrom (rootPath (.ofString ".") (root k))
      [SmallProject.name "build"]).fits = true :=
    Tree.newDirsFit_of_plan (t := tree) hlinks hplan (root k) (by simp [moduleRoot_config])
      [SmallProject.src] linkLimit _
      (resolve_root (by omega) hfits hsrc) (List.cons_ne_nil _ _) hbuild hmissing
  have htrail : (trail [SmallProject.name "build"]).length = 6 := by decide_cbv
  rw [Path.fits, bytes_pathFrom (bare_rootPath (checkRoot_root k)), List.length_append, htrail,
    length_rootPath_root (k := k) (by omega), Path.lengthLimit, decide_eq_true_iff] at hreach
  omega

theorem noLinks : tree.NoLinks := Tree.noLinks_of_entries (by simp [tree])

/-- **A run that succeeds may not succeed again**: it may have made a directory that cannot be
entered. -/
theorem generate_fails_again : tree.NoLinks ∧ tree.isDirAt (.ofString ".") = true ∧
    (∀ r ∈ [(config 2044).archiveRoot, (config 2044).moduleRoot],
      Path.Step.up ∉ (Path.ofString r).steps) ∧
    (∀ ext ∈ sourceExtensions,
      ¬ Utf8.encode ("." ++ ext).toList <:+ ((config 2044).outputPath (.ofString ".")).bytes) ∧
    (∃ r, (tree.generate (.ofString ".") (config 2044) ⟨0, 0⟩).2.result = .ok r) ∧
    ∀ r,
      ((tree.generate (.ofString ".") (config 2044) ⟨0, 0⟩).1.generate (.ofString ".") (config 2044)
        ⟨60, 0⟩).2.result ≠
      .ok r := by
  have hplan := plan_eq (k := 2044) (by decide) (by decide)
  obtain ⟨t, hinstalled, hsrc, hbuild⟩ := install_eq (Fragment.text WindingProject.nothing ⟨0, 0⟩)
  -- the first generation goes well, and leaves a directory below the root
  have hfree : ∀ name, some (SmallProject.name ".tmp000000") = some name →
      tree.Free (.ofString "./src/build/native.mk") name :=
    fun name hname => Tree.free_of_drawName (drawName_eq.trans hname)
  obtain ⟨t₁, d, n, hemits⟩ := Tree.emits_of_install hfree hinstalled
  rw [← drawName_eq, ← outputPath_config 2044] at hinstalled
  obtain ⟨hresult, htree⟩ := Tree.generateAs_of_install hplan hinstalled
  rw [← Tree.generate] at hresult htree
  refine ⟨noLinks, by cbv, ?_, ?_, ⟨_, hresult⟩, ?_⟩
  · intro r hr
    rcases List.mem_cons.1 hr with rfl | hr
    · change Path.Step.up ∉ (Path.ofString "lib").steps
      decide_cbv
    · obtain rfl := List.mem_singleton.1 hr
      exact up_notMem_steps_root 2044
  · rw [outputPath_config]
    decide_cbv
  · intro r hr
    rw [htree, Tree.generate] at hr
    obtain ⟨p, hplan', -, -⟩ := Tree.generateAs_eq_ok hr
    exact plan_ne_ok (k := 2044) (by decide) (by decide) (hemits.noLinks noLinks) hsrc hbuild
      p hplan'

end DottedRoot

end NativeBuild
