import NativeBuild.Proofs.Landing

/-!
# What a run that succeeds has done

A run that succeeds has made the directories that were missing, and then it has put one file in the
place of what lay where the output path lands. `Tree.Emits` says so of the trees before and after,
and of the tree between them in which the directories have been made. The temporary file is gone
again and has left no trace.

Two things are less simple than they look. The mode is asked for when the directories are there, and
a path like `m/../f` may lead to a file only then. And the file may have replaced a link that the
output path itself leads through, as in `x/../x`; then the path leads to nothing any more.
-/

namespace NativeBuild

namespace Tree

variable {t t₁ t' : Tree} {d : Location} {n : Name} {output : Path} {content : Bytes}
  {drawn : Option Name} {text : String}

/-- A tree **emits** a content at a path and becomes `t'`: directories are made, which gives `t₁`,
and then a file is put under the name `n` of the directory at `d`. -/
structure Emits (t : Tree) (output : Path) (content : Bytes) (t₁ t' : Tree) (d : Location)
    (n : Name) : Prop where
  made : t.makeDirs output.directory = (t₁, .ok ())
  /-- Making directories keeps what was there, -/
  gainsDirs : GainsDirs t t₁
  /-- it makes only those that a part of the way leads to, -/
  onTheWay : ∀ k, t.get? k = none → t₁.isDir k = true →
    ∃ front back, output.directory.steps = front ++ back ∧ t₁.Reaches front k
  /-- and none if the directory of the output was there. -/
  unmade : t.isDirAt output.directory = true → t₁ = t
  lands : t₁.landing output = .ok (d, n)
  /-- No directory is replaced. -/
  room : t₁.isDir (d ++ [n]) = false
  file : t'.get? (d ++ [n]) = some (.file content (t₁.modeFor output))
  /-- All other entries are those that there were. -/
  others : AgreeOutside (d ++ [n]) t₁ t'
  /-- The mode is that of the file which the path led to. -/
  mode : ∀ c m, t.entryAt output = .ok (.file c m) → t₁.modeFor output = m
  /-- What a link led to stays as it was. -/
  pointee : ∀ target l left, t₁.get? (d ++ [n]) = some (.link target) →
    t₁.resolve output = .ok (l, left) →
    t'.get? l = t₁.get? l
  /-- The path names the file, unless the way to it led through a link that the file has
  replaced. -/
  named : t'.entryAtItself output = some (.file content (t₁.modeFor output)) ↔
    ∀ target, t₁.get? (d ++ [n]) = some (.link target) →
      (t₁.erase (d ++ [n])).Reaches output.steps.dropLast d

/-! ### Making the directories -/

/-- **Directories that have been made** are where the path leads, and each new one is on the way. -/
theorem makeDirs_eq_ok {p : Path} (h : t.makeDirs p = (t₁, .ok ())) : p.fault? = none ∧
    (∃ d, t₁.Reaches p.steps d ∧ t₁.isDir d = true) ∧
      ∀ k, t.get? k = none → t₁.isDir k = true → ∃ front back, p.steps = front ++ back ∧
        t₁.Reaches front k := by
  unfold makeDirs at h
  split at h
  · simp at h
  · rename_i hfault
    have hleads := leadsAlong_makeAlong rfl h
    obtain ⟨d, left, hf, hd⟩ := hleads.arrives
    refine ⟨hfault, ⟨d, ⟨left, hf⟩, hd⟩, fun k hnone hk => ?_⟩
    obtain ⟨front, back, left, hsteps, hfront⟩ := hleads.onTheWay k hnone hk
    exact ⟨front, back, hsteps, left, hfront⟩

/-- Making directories gains directories only. -/
theorem gainsDirs_of_makeDirs {p : Path} (h : t.makeDirs p = (t₁, .ok ())) : GainsDirs t t₁ := by
  have hgains := gainsDirs_makeDirs t p
  rwa [h] at hgains

/-- **No directory is made** where there is one. -/
theorem makeDirs_of_reaches {p : Path} (hfault : p.fault? = none) (h : t.Reaches p.steps d)
    (hd : t.isDir d = true) :
    t.makeDirs p = (t, .ok ()) := by
  obtain ⟨left, hf⟩ := h
  rw [makeDirs, hfault]
  exact makeAlong_of_follow hf hd

/-! ### Installing -/

/-- **An installation that succeeds** has gone through all its steps. -/
theorem install_eq_ok_iff : t.install drawn output text = (t', .ok ()) ↔
    ∃ t₁ name created d n, t.makeDirs output.directory = (t₁, .ok ()) ∧ drawn = some name ∧
      t₁.createFile (output.directory.join name.path) temporaryMode = .ok (created, d, n) ∧
      (created.prepare d n (Utf8.encode text.toList) output).moveFile d n output = .ok t' := by
  unfold install
  constructor
  · -- each of the four steps may fail, and then so does the installation
    intro h
    split at h
    · simp at h
    · rename_i t₁ hmade
      split at h
      · simp at h
      · rename_i name
        split at h
        · simp at h
        · rename_i created d n hcreated
          dsimp only at h
          split at h
          · rename_i t'' hmoved
            obtain ⟨rfl, -⟩ := Prod.mk.inj h
            exact ⟨t₁, name, created, d, n, hmade, rfl, hcreated, hmoved⟩
          · simp at h
  · rintro ⟨t₁, name, created, d, n, hmade, rfl, hcreated, hmoved⟩
    simp [hmade, hcreated, hmoved]

/-- A file that is prepared has the content, and the mode that is asked for in a tree in which it
is. -/
theorem get?_prepare {c : Bytes} {m : Nat} (h : t.get? (d ++ [n]) = some (.file c m)) :
    (t.prepare d n content output).get? (d ++ [n]) =
      some (.file content ((t.refill d n content temporaryMode).modeFor output)) :=
  get?_refill (get?_refill h content temporaryMode) content _

/-- What a path leads to is there afterwards, if everything is kept. -/
theorem entryAt_of_keeps {e : Entry} {p : Path}
    (hkeeps : ∀ k e, t.get? k = some e → t₁.get? k = some e)
    (h : t.entryAt p = .ok e) : t₁.entryAt p = .ok e := by
  obtain ⟨l, left, hr, hl⟩ := entryAt_eq_ok_iff.1 h
  obtain ⟨hfault, hf⟩ := resolve_eq_ok_iff.1 hr
  exact entryAt_eq_ok_iff.2 ⟨l, left, resolve_eq_ok_iff.2 ⟨hfault, follow_of_keeps hkeeps hf⟩,
    hkeeps l e hl⟩

/-- **An installation under a free name** makes directories and then changes one place, and no
more. -/
theorem agreeOutside_of_install (hdrawn : ∀ name, drawn = some name → t.Free output name)
    (h : t.install drawn output text = (t', .ok ())) :
    ∃ t₁ d n, t.makeDirs output.directory = (t₁, .ok ()) ∧ t₁.landing output = .ok (d, n) ∧
      t₁.isDir (d ++ [n]) = false ∧
      t'.get? (d ++ [n]) = some (.file (Utf8.encode text.toList) (t₁.modeFor output)) ∧
      AgreeOutside (d ++ [n]) t₁ t' := by
  obtain ⟨t₁, name, created, e, m, hmade, hname, hcreated, hmoved⟩ := install_eq_ok_iff.1 h
  obtain ⟨hnone, hcreate⟩ := createFile_eq_ok hcreated
  obtain ⟨rfl, hempty⟩ := createFile_join_eq_ok hcreated
  have hgains : GainsDirs t t₁ := gainsDirs_of_makeDirs hmade
  have hfree : t₁.Free output m := (hdrawn m hname).of_gainsDirs hgains
  -- until the move the tree differs by the temporary file, and nobody mentions that
  have hapart : ∀ {t₂ : Tree}, AgreeOutside (e ++ [m]) t₁ t₂ → ∀ k, m ∉ k →
      t₂.get? k = t₁.get? k := by
    intro t₂ hagree k hk
    refine hagree k ?_
    rintro rfl
    simp at hk
  generalize Utf8.encode text.toList = content at hmoved ⊢
  have hfilled := hcreate.trans (agreeOutside_refill created e m content temporaryMode)
  have hready := hcreate.trans (agreeOutside_prepare created e m content output)
  have hprepared : (created.prepare e m content output).get? (e ++ [m]) =
      some (.file content (t₁.modeFor output)) := by
    rw [get?_prepare hempty, modeFor_of_unmentioned hfree (hapart hfilled)]
  -- the move puts the file where the path lands, and leaves nothing where it was
  obtain ⟨d, n, c, mode, hlanding, hfile, hnot, hmovedTo, hmovedFrom⟩ := moveFile_eq_ok hmoved
  rw [hprepared] at hfile
  obtain ⟨rfl, rfl⟩ := Entry.file.inj (Option.some.inj hfile)
  refine ⟨t₁, d, n, hmade, ?_, ?_, hmovedTo, fun k hk => ?_⟩
  · exact (landing_of_unmentioned hfree (hapart hready)).symm.trans hlanding
  · by_cases heq : d ++ [n] = e ++ [m]
    · rw [heq, isDir, hnone]
      rfl
    · rw [isDir, ← hready _ heq]
      exact hnot
  · rw [hmovedFrom k hk]
    split
    · rename_i hk'
      rw [hk', hnone]
    · rename_i hk'
      exact hready k hk'

/-- **An installation under a free name emits the text.** -/
theorem emits_of_install (hdrawn : ∀ name, drawn = some name → t.Free output name)
    (h : t.install drawn output text = (t', .ok ())) :
    ∃ t₁ d n, t.Emits output (Utf8.encode text.toList) t₁ t' d n := by
  obtain ⟨t₁, d, n, hmade, hlands, hroom, hfile, hagree⟩ := agreeOutside_of_install hdrawn h
  have hgains : GainsDirs t t₁ := gainsDirs_of_makeDirs hmade
  exact ⟨t₁, d, n, {
    made := hmade
    gainsDirs := hgains
    onTheWay := (makeDirs_eq_ok hmade).2.2
    -- making a directory that is there makes nothing
    unmade := by
      intro hthere
      obtain ⟨hfault, q, hq, hdirq⟩ := reaches_of_isDirAt hthere
      rw [makeDirs_of_reaches hfault hq hdirq] at hmade
      exact (Prod.mk.inj hmade).1.symm
    lands := hlands
    room := hroom
    file := hfile
    others := hagree
    mode := by
      intro c m hentry
      rw [modeFor, entryAt_of_keeps hgains.keeps hentry]
    -- the link leads to something that is no link, so it is not the link itself
    pointee := by
      intro target l left hlink hr
      obtain ⟨e, he, hnot⟩ := get?_of_follow (resolve_eq_ok_iff.1 hr).2 t₁.get?_nil (by simp)
      refine hagree l ?_
      rintro rfl
      rw [hlink] at he
      exact hnot target (Option.some.inj he).symm
    named := entryAtItself_iff_of_moved hlands hroom hfile hagree }⟩

/-! ### Runs -/

variable {project : Path} {config : Config} {written : Timestamp} {r : Report}

/-- **A run that succeeds** has a plan, installs its text, and reports on both. -/
theorem generateAs_eq_ok (h : (t.generateAs drawn project config written).2.result = .ok r) :
    ∃ p, (t.plan project config).result = .ok p ∧
      t.install drawn (config.outputPath project) (Fragment.text p written) =
        ((t.generateAs drawn project config written).1, .ok ()) ∧
      r = ⟨config.outputPath project, p.archives.length, p.modules.length⟩ := by
  unfold generateAs at h ⊢
  dsimp only at h ⊢
  -- without a plan nothing is installed
  cases hplan : (t.plan project config).result with
  | error e =>
    rw [hplan] at h
    simp at h
  | ok p =>
    rw [hplan] at h
    dsimp only at h ⊢
    refine ⟨p, rfl, ?_⟩
    cases hinstalled : t.install drawn (config.outputPath project) (Fragment.text p written) with
    | mk t' installed =>
      rw [hinstalled] at h
      cases installed with
      | error e => simp at h
      | ok _ => exact ⟨rfl, (Except.ok.inj h).symm⟩

/-- A plan that is installed is all there is to a generation. -/
theorem generateAs_of_install {p : BuildPlan} (hplan : (t.plan project config).result = .ok p)
    (h : t.install drawn (config.outputPath project) (Fragment.text p written) = (t', .ok ())) :
    (t.generateAs drawn project config written).2.result =
        .ok ⟨config.outputPath project, p.archives.length, p.modules.length⟩ ∧
      (t.generateAs drawn project config written).1 = t' := by
  unfold generateAs
  dsimp only
  rw [hplan]
  dsimp only
  rw [h]
  exact ⟨rfl, rfl⟩

/-- **What a run that succeeds has done.** It reports on the plan of the project, and it has emitted
the text of that plan at the output path. -/
theorem generate_emits (h : (t.generate project config written).2.result = .ok r) :
    ∃ p t₁ d n, (t.plan project config).result = .ok p ∧
      r = ⟨config.outputPath project, p.archives.length, p.modules.length⟩ ∧
      t.Emits (config.outputPath project) (Utf8.encode (Fragment.text p written).toList) t₁
        (t.generate project config written).1 d n := by
  obtain ⟨p, hplan, hinstalled, hr⟩ := generateAs_eq_ok h
  obtain ⟨t₁, d, n, hemits⟩ := emits_of_install (fun name => free_of_drawName) hinstalled
  exact ⟨p, t₁, d, n, hplan, hr, hemits⟩

end Tree

namespace SmallProject

/-- The first name that is drawn is free, as nothing is in the directory. -/
theorem drawName_eq :
    tree.drawName (.ofString "./build/native.mk") = some (name ".tmp000000") := by decide

theorem install_eq_ok (text : String) :
    ∃ t, tree.install (some (name ".tmp000000")) (.ofString "./build/native.mk") text =
      (t, .ok ()) := by
  unfold Tree.install
  generalize Utf8.encode text.toList = content
  exact ⟨_, by cbv⟩

theorem generate_eq_ok (written : Timestamp) :
    (tree.generate (.ofString ".") .default written).2.result =
    .ok ⟨.ofString "./build/native.mk", 1, 2⟩ := by
  have houtput : Config.default.outputPath (.ofString ".") = .ofString "./build/native.mk" := by cbv
  obtain ⟨t, hinstalled⟩ := install_eq_ok (Fragment.text plan written)
  rw [← drawName_eq, ← houtput] at hinstalled
  rw [Tree.generate, (Tree.generateAs_of_install plan_eq hinstalled).1, houtput]
  rfl

end SmallProject

/-- The small project, whose build directory is made. -/
theorem smallProject_emits :
    (SmallProject.tree.generate (.ofString ".") .default ⟨0, 0⟩).2.result =
        .ok ⟨.ofString "./build/native.mk", 1, 2⟩ ∧
      ∃ p t₁ d n, (SmallProject.tree.plan (.ofString ".") .default).result = .ok p ∧
        SmallProject.tree.Emits (Config.default.outputPath (.ofString "."))
          (Utf8.encode (Fragment.text p ⟨0, 0⟩).toList) t₁
          (SmallProject.tree.generate (.ofString ".") .default ⟨0, 0⟩).1 d n := by
  have h := SmallProject.generate_eq_ok ⟨0, 0⟩
  obtain ⟨p, t₁, d, n, hplan, -, hemits⟩ := Tree.generate_emits h
  exact ⟨h, p, t₁, d, n, hplan, hemits⟩

/-! ### Output paths that wind

A project without a source, whose output path goes up again before it goes down. -/

namespace WindingProject

/-- A link to a directory. -/
def linked : Tree where
  entries := [([SmallProject.name "d"], .dir), ([SmallProject.name "x"], .link (.ofString "d"))]
  ascending := by
    unfold Ascending
    decide_cbv
  closed := SmallProject.closed_of_dropLast (by decide_cbv)

/-- The output path leads through the link to the link. -/
def throughLink : Config := { Config.default with output := .ofString "x/../x" }

/-- A file that only its owner may read. -/
def guarded : Tree where
  entries := [([SmallProject.name "f"], .file [] 0o600)]
  ascending := by
    unfold Ascending
    decide_cbv
  closed := SmallProject.closed_of_dropLast (by decide_cbv)

/-- The output path leads to the file once there is a directory. -/
def throughGap : Config := { Config.default with output := .ofString "m/../f" }

/-- A plan without targets. -/
def nothing : BuildPlan := ⟨[], []⟩

theorem plan_linked : (linked.plan (.ofString ".") throughLink).result = .ok nothing := by cbv

theorem plan_guarded : (guarded.plan (.ofString ".") throughGap).result = .ok nothing := by cbv

/-- The name is free here as well. -/
theorem drawName_linked :
    linked.drawName (.ofString "./x/../x") = some (SmallProject.name ".tmp000000") := by decide

theorem drawName_guarded :
    guarded.drawName (.ofString "./m/../f") = some (SmallProject.name ".tmp000000") := by
  decide

/-- The link is replaced, and so it leads nowhere on the way. -/
theorem install_linked (text : String) :
    ∃ t, linked.install (some (SmallProject.name ".tmp000000")) (.ofString "./x/../x") text =
        (t, .ok ()) ∧
      t.entryAtItself (.ofString "./x/../x") = none := by
  unfold Tree.install
  generalize Utf8.encode text.toList = content
  exact ⟨_, by cbv, by cbv⟩

/-- The mode is that of the file which the path leads to once its directory is there. -/
theorem install_guarded (text : String) :
    ∃ t, guarded.install (some (SmallProject.name ".tmp000000")) (.ofString "./m/../f") text =
        (t, .ok ()) ∧
      t.entryAtItself (.ofString "./m/../f") = some (.file (Utf8.encode text.toList) 0o600) := by
  unfold Tree.install
  generalize Utf8.encode text.toList = content
  exact ⟨_, by cbv, by cbv⟩

/-- **The output path may name nothing** after a run that succeeded, and a file that it did not name
before may have its mode kept. -/
theorem output_misnamed :
    (∃ r, (linked.generate (.ofString ".") throughLink ⟨0, 0⟩).2.result = .ok r ∧
      (linked.generate (.ofString ".") throughLink ⟨0, 0⟩).1.entryAtItself r.output = none) ∧
    ∃ r content, (guarded.generate (.ofString ".") throughGap ⟨0, 0⟩).2.result = .ok r ∧
      guarded.entryAt r.output = .error .notFound ∧
      (guarded.generate (.ofString ".") throughGap ⟨0, 0⟩).1.entryAtItself r.output =
        some (.file content 0o600) ∧
      0o600 ≠ Tree.defaultMode := by
  have houtput : throughLink.outputPath (.ofString ".") = .ofString "./x/../x" := by cbv
  have houtput' : throughGap.outputPath (.ofString ".") = .ofString "./m/../f" := by cbv
  constructor
  · obtain ⟨t, hinstalled, hnone⟩ := install_linked (Fragment.text nothing ⟨0, 0⟩)
    rw [← drawName_linked, ← houtput] at hinstalled
    obtain ⟨hresult, htree⟩ := Tree.generateAs_of_install plan_linked hinstalled
    refine ⟨_, hresult, ?_⟩
    rw [Tree.generate, htree, houtput]
    exact hnone
  · -- the path led nowhere before, and yet the file has not the mode of new files
    obtain ⟨t, hinstalled, hfile⟩ := install_guarded (Fragment.text nothing ⟨0, 0⟩)
    rw [← drawName_guarded, ← houtput'] at hinstalled
    obtain ⟨hresult, htree⟩ := Tree.generateAs_of_install plan_guarded hinstalled
    refine ⟨_, Utf8.encode (Fragment.text nothing ⟨0, 0⟩).toList, hresult, ?_, ?_, by decide⟩
    · rw [houtput']
      cbv
    · rw [Tree.generate, htree, houtput']
      exact hfile

end WindingProject

end NativeBuild
