import NativeBuild.Generation
import NativeBuild.Proofs.Changes
import NativeBuild.Proofs.Planning

/-!
# A run that fails leaves the files alone

A run can fail in many places: at a root, in a walk, at two files of one name, at a directive
declared twice, at the directories of the fragment, at its temporary file, and at the very last
step, when something stands in the way of the fragment. Up to the directories nothing has changed.
Afterwards there is a temporary file, which is nowhere but in a place that was free
(`createFile_eq_ok`), so erasing it gives back the tree that the directories were made in
(`install_of_error`).

Hence a run that fails has at most made directories, and it has made none if there was no plan
(`generate_failure_keeps_files`).
-/

namespace NativeBuild

namespace Tree

variable {t : Tree} {drawn : Option Name} {project : Path} {config : Config} {written : Timestamp}

/-- Writing the content and setting the mode concern the temporary file only. -/
theorem agreeOutside_prepare (t : Tree) (d : Location) (n : Name) (content : Bytes)
    (output : Path) :
    AgreeOutside (d ++ [n]) t (t.prepare d n content output) :=
  (agreeOutside_refill t d n content temporaryMode).trans (agreeOutside_refill _ d n content _)

/-- **An installation that fails** leaves the tree as it was when the directories had been made. -/
theorem install_of_error {output : Path} {text : String} {e : BuildError}
    (h : (t.install drawn output text).2 = .error e) :
    (t.install drawn output text).1 = (t.makeDirs output.directory).1 := by
  unfold install at h ⊢
  -- in the order of the steps, each of which may be the one that fails
  cases hmade : t.makeDirs output.directory with
  | mk t' made =>
    rw [hmade] at h
    cases made with
    | error fault => rfl
    | ok _ =>
      cases drawn with
      | none => rfl
      | some name =>
        dsimp only at h ⊢
        cases hcreated : t'.createFile (output.directory.join name.path) temporaryMode with
        | error fault => rfl
        | ok file =>
          obtain ⟨created, d, n⟩ := file
          rw [hcreated] at h
          dsimp only at h ⊢
          -- from here on the tree differs by the temporary file and by nothing else
          obtain ⟨hnone, hnew⟩ := createFile_eq_ok hcreated
          have hready :=
            hnew.trans (agreeOutside_prepare created d n (Utf8.encode text.toList) output)
          cases hmove :
            (created.prepare d n (Utf8.encode text.toList) output).moveFile d n output with
          | ok t'' =>
            rw [hmove] at h
            exact absurd h (by simp)
          | error fault => exact erase_of_agreeOutside (by simp) hnone hready

/-- Without a plan nothing is done to the tree. -/
theorem generateAs_of_plan_error {e : BuildError} (h : (t.plan project config).result = .error e) :
    (t.generateAs drawn project config written).1 = t := by
  unfold generateAs
  dsimp only
  rw [h]

/-- A run with a plan installs its text. -/
theorem generateAs_of_plan_ok (drawn : Option Name) (written : Timestamp) {p : BuildPlan}
    (h : (t.plan project config).result = .ok p) :
    (t.generateAs drawn project config written).1 =
        (t.install drawn (config.outputPath project) (Fragment.text p written)).1 ∧
      ∀ e, (t.generateAs drawn project config written).2.result = .error e ↔
        (t.install drawn (config.outputPath project) (Fragment.text p written)).2 = .error e := by
  unfold generateAs
  dsimp only
  rw [h]
  dsimp only
  cases t.install drawn (config.outputPath project) (Fragment.text p written) with
  | mk t' installed =>
    cases installed with
    | error fault => exact ⟨rfl, fun e => by simp⟩
    | ok _ => exact ⟨rfl, fun e => iff_of_false (by simp) (by simp)⟩

/-- **A run that fails leaves the files alone**, whatever name was drawn for the temporary file
(`generate` draws one that is free). What was in the tree is there as before, and what is new are
directories. If there is no plan nothing is new; if there is one, the new directories are those that
are made for the directory of the fragment. -/
theorem generate_failure_keeps_files {e : BuildError}
    (h : (t.generateAs drawn project config written).2.result = .error e) :
    GainsDirs t (t.generateAs drawn project config written).1 ∧
      (∀ e', (t.plan project config).result = .error e' →
        (t.generateAs drawn project config written).1 = t) ∧
      ∀ p, (t.plan project config).result = .ok p →
        (t.generateAs drawn project config written).1 =
          (t.makeDirs (config.outputPath project).directory).1 := by
  -- with a plan it is the installation that fails, after the directories have been made
  have hok : ∀ p, (t.plan project config).result = .ok p →
      (t.generateAs drawn project config written).1 =
        (t.makeDirs (config.outputPath project).directory).1 := by
    intro p hp
    obtain ⟨htree, hresult⟩ := generateAs_of_plan_ok drawn written hp
    rw [htree]
    exact install_of_error ((hresult e).1 h)
  refine ⟨?_, fun e' => generateAs_of_plan_error, hok⟩
  cases hplan : (t.plan project config).result with
  | error e' =>
    rw [generateAs_of_plan_error hplan]
    exact GainsDirs.refl t
  | ok p =>
    rw [hok p hplan]
    exact gainsDirs_makeDirs t _

end Tree

namespace SmallProject

/-- A configuration under which a directory stands in the way of the fragment. -/
def inTheWay : Config := { Config.default with output := .ofString "src" }

/-- The build file is to be put where the directory of the sources is; that does not hinder the
plan. -/
theorem plan_inTheWay : (tree.plan (.ofString ".") inTheWay).result = .ok plan := by cbv

/-- It does hinder the installation. -/
theorem install_inTheWay (text : String) :
    (tree.install (some (name ".tmp000000")) (.ofString "./src") text).2 =
      .error (.output (.ofString "./src") .isDirectory) := by
  unfold Tree.install
  generalize Utf8.encode text.toList = content
  cbv

end SmallProject

/-- The small project, with its output in the way. -/
theorem smallProject_failure_keeps_files :
    (SmallProject.tree.generateAs (some (SmallProject.name ".tmp000000")) (.ofString ".")
        SmallProject.inTheWay ⟨0, 0⟩).2.result = .error (.output (.ofString "./src") .isDirectory) ∧
      Tree.GainsDirs SmallProject.tree (SmallProject.tree.generateAs
        (some (SmallProject.name ".tmp000000")) (.ofString ".") SmallProject.inTheWay ⟨0, 0⟩).1 ∧
      (SmallProject.tree.generateAs (some (SmallProject.name ".tmp000000")) (.ofString ".")
        SmallProject.inTheWay ⟨0, 0⟩).1 =
          (SmallProject.tree.makeDirs
            (SmallProject.inTheWay.outputPath (.ofString ".")).directory).1 := by
  have hfails := (Tree.generateAs_of_plan_ok _ _ SmallProject.plan_inTheWay).2 _ |>.2
    (SmallProject.install_inTheWay (Fragment.text SmallProject.plan ⟨0, 0⟩))
  obtain ⟨hgains, -, hmade⟩ := Tree.generate_failure_keeps_files hfails
  exact ⟨hfails, hgains, hmade _ SmallProject.plan_inTheWay⟩

end NativeBuild
