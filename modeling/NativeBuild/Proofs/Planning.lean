import Mathlib
import NativeBuild.Plan
import NativeBuild.Proofs.Clusters
import NativeBuild.Proofs.Stock

/-!
# Opening a plan

What a plan that succeeds consists of, said once for everything that is proved about plans. The
targets of one root are those of its inventories in order (`targetsOf_eq_ok_iff`); the targets of an
inventory are its clusters, each merged into one target (`Inventory.targets`). A plan has the
targets of the archive root, and those of the module root linked against them (`plan_eq_ok_iff`).
Linking never fails: a reference that no archive answers is only reported.

`SmallProject` is a project whose plan is known, `SmallProject.plan_eq`. It and the projects built
on it are run by `cbv`, which proves the equations of the core library's functions that it unfolds
unless an import has them already. Mathlib, of which no lemma is used here, is imported whole for
this alone: so none of these equations is proved a second time in the modules that follow.
-/

namespace NativeBuild

/-- The targets of an inventory, one for each cluster of its files. -/
def Inventory.targets (inv : Inventory) (kind : TargetKind) (runtime : String)
    (directivesOf : SourceFile → Logged DirectiveSet) : List Target :=
  (clusters (declared directivesOf inv.files)).map fun c =>
    (Group.ofCluster ⟨inv.dir, kind, runtime⟩ c).target

/-- They depend on the directives of these files only. -/
theorem Inventory.targets_congr {inv : Inventory} {kind : TargetKind} {runtime : String}
    {f g : SourceFile → Logged DirectiveSet} (h : ∀ file ∈ inv.files, f file = g file) :
    inv.targets kind runtime f = inv.targets kind runtime g := by
  have hdeclared : declared f inv.files = declared g inv.files :=
    List.map_congr_left fun file hfile => by rw [h file hfile]
  rw [targets, targets, hdeclared]

namespace Tree

variable {t : Tree} {project : Path} {config : Config} {root : String} {kind : TargetKind}

/-- The directives of a source file of the tree. -/
def directivesOf (t : Tree) (f : SourceFile) : Logged DirectiveSet := t.directivesAt f.path

/-- **The targets of a root** are those of its inventories, in order. -/
theorem targetsOf_eq_ok_iff {ts : List Target} :
    (t.targetsOf project config root kind).result = .ok ts ↔
      ∃ invs, (t.scan project root config.followLinks).result = .ok invs ∧
        (∀ inv ∈ invs, Answered t.directivesOf inv.files) ∧
        ts = invs.flatMap fun inv => inv.targets kind config.runtime t.directivesOf := by
  unfold Tree.targetsOf
  rw [Traced.result_bind_eq_ok_iff]
  refine exists_congr fun invs => and_congr_right fun _ => ?_
  rw [Traced.result_bind_eq_ok_iff]
  -- each inventory is grouped by itself
  simp only [Traced.result_mapM_eq_ok_iff fun inv gs =>
    Inventory.group_eq_ok_iff (fun _ _ => Traced.result_note _), Traced.result_pure,
      Except.ok.injEq]
  -- the groups of an inventory are its clusters
  have htargets : ∀ inv : Inventory, ((clusters (declared t.directivesOf inv.files)).map
      (Group.ofCluster ⟨inv.dir, kind, config.runtime⟩)).map Group.target =
        inv.targets kind config.runtime t.directivesOf :=
    fun inv => List.map_map
  constructor
  · rintro ⟨gss, ⟨hasked, rfl⟩, rfl⟩
    refine ⟨hasked, ?_⟩
    rw [List.flatMap_map]
    exact List.flatMap_congr fun inv _ => htargets inv
  · rintro ⟨hasked, rfl⟩
    refine ⟨_, ⟨hasked, rfl⟩, ?_⟩
    rw [List.flatMap_map]
    exact List.flatMap_congr fun inv _ => htargets inv

/-- Linking a module does not fail; a reference that nothing answers is noted at most. -/
theorem result_linkModule (table : ArchiveTable) (warn : Bool) (m : Target) :
    (linkModule table warn m).result = .ok (m.link table) := by
  unfold linkModule
  rw [Traced.result_bind_unit_eq_ok_iff]
  -- what is missing is only noted
  exact ⟨Traced.result_forM_eq_ok fun name _ => Traced.result_note _, rfl⟩

theorem linkModule_eq_ok_iff {table : ArchiveTable} {warn : Bool} (m m' : Target) :
    (linkModule table warn m).result = .ok m' ↔ True ∧ m' = m.link table := by
  rw [result_linkModule, Except.ok.injEq, true_and, eq_comm]

/-- **When a plan succeeds, and with what.** -/
theorem plan_eq_ok_iff {p : BuildPlan} : (t.plan project config).result = .ok p ↔
    checkRoot config.archiveRoot = .ok () ∧ checkRoot config.moduleRoot = .ok () ∧
      (t.targetsOf project config config.archiveRoot .archive).result = .ok p.archives ∧
      ∃ ms, (t.targetsOf project config config.moduleRoot .module).result = .ok ms ∧
        p.modules = ms.map (·.link (.ofTargets p.archives)) := by
  unfold Tree.plan
  rw [Traced.result_bind_unit_eq_ok_iff, Traced.result_bind_unit_eq_ok_iff,
    Traced.result_bind_eq_ok_iff, Traced.result_ofExcept, Traced.result_ofExcept]
  refine and_congr_right fun _ => and_congr_right fun _ => ?_
  constructor
  · -- from front to back, past the two notes
    rintro ⟨archives, harchives, h⟩
    obtain ⟨-, h⟩ := Traced.result_bind_unit_eq_ok_iff.1 h
    obtain ⟨ms, hms, h⟩ := Traced.result_bind_eq_ok_iff.1 h
    obtain ⟨linked, hlinked, h⟩ := Traced.result_bind_eq_ok_iff.1 h
    obtain ⟨-, h⟩ := Traced.result_bind_unit_eq_ok_iff.1 h
    obtain ⟨-, rfl⟩ := (Traced.result_mapM_eq_ok_iff linkModule_eq_ok_iff).1 hlinked
    obtain rfl := Except.ok.inj h
    exact ⟨harchives, ms, hms, rfl⟩
  · rintro ⟨harchives, ms, hms, hp⟩
    -- and back, step by step
    refine ⟨p.archives, harchives, Traced.result_bind_unit_eq_ok_iff.2 ⟨rfl, ?_⟩⟩
    refine Traced.result_bind_eq_ok_iff.2 ⟨ms, hms,
      Traced.result_bind_eq_ok_iff.2 ⟨p.modules, ?_, ?_⟩⟩
    · exact (Traced.result_mapM_eq_ok_iff linkModule_eq_ok_iff).2 ⟨fun _ _ => trivial, hp⟩
    · exact Traced.result_bind_unit_eq_ok_iff.2 ⟨rfl, rfl⟩

end Tree

/-! ### A small project

One archive that carries the runtime of the extended language itself, a module that refers to it,
and a module in a directory of its own. -/

namespace SmallProject

instance (es : Entries) (l : Location) : Decidable (es.HasDir l) :=
  inferInstanceAs (Decidable (_ ∨ _))

/-- Entries make up a tree if each of them lies in a directory. -/
theorem closed_of_dropLast {es : Entries} (h : ∀ x ∈ es, x.1 ≠ [] ∧ es.HasDir x.1.dropLast) :
    ∀ x ∈ es, ∃ d n, x.1 = d ++ [n] ∧ es.HasDir d := by
  intro x hx
  obtain ⟨hne, hdir⟩ := h x hx
  exact ⟨x.1.dropLast, x.1.getLast hne, (List.dropLast_concat_getLast hne).symm, hdir⟩

/-- The name that a text spells. -/
def name (s : String) (h : Name.isName (Utf8.encode s.toList) = true := by cbv) : Name := ⟨_, h⟩

/-- The name of the archive root. -/
def lib : Name := name "lib"

/-- The name of the module root. -/
def src : Name := name "src"

/-- The name of the directory in the module root. -/
def net : Name := name "net"

/-- The name of the source file of the archive. -/
def archived : Name := name "z.cc"

/-- The name of the source file in the module root. -/
def app : Name := name "app.c"

/-- The name of the source file in `net`. -/
def sock : Name := name "sock.c"

/-- The name of a source file that other small projects have. -/
def file : Name := name "a.c"

/-- A regular file with a text. -/
def text (s : String) : Entry := .file (Utf8.encode s.toList) 0o644

/-- The **small project**. -/
def tree : Tree where
  entries :=
    [([lib], .dir),
      ([lib, archived], text "// @ldflags: -lm -lstdc++\n"),
      ([src], .dir),
      ([src, app], text "// @reflibs: z\n"),
      ([src, net], .dir),
      ([src, net, sock], text "")]
  ascending := by
    unfold Ascending
    decide_cbv
  closed := closed_of_dropLast (by decide_cbv)

/-- A source without flags of its own. -/
def source (path name ext : String) : TargetSource :=
  ⟨⟨.ofString ("./" ++ path), path, name, ext⟩, ⟨[], [], []⟩⟩

/-- Its plan. -/
def plan : BuildPlan where
  archives :=
    [⟨.archive, "z", [source "lib/z.cc" "z" "cc"], .extended, ["-lm", "-lstdc++"], [], []⟩]
  modules :=
    [⟨.module, "app", [source "src/app.c" "app" "c"], .extended,
        ["$(LIBDIR)/z.a", "-lm", "-lstdc++"], ["z"], ["$(LIBDIR)/z.a"]⟩,
      ⟨.module, "net/sock", [source "src/net/sock.c" "sock" "c"], .plain, [], [], []⟩]

/-- The plan that the small project has. -/
theorem plan_eq : (tree.plan (.ofString ".") .default).result = .ok plan := by cbv

end SmallProject

end NativeBuild
