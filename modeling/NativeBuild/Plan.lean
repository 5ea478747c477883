import NativeBuild.Directive.Reading
import NativeBuild.Scan
import NativeBuild.Target.Grouping
import NativeBuild.Target.Linking

/-!
# Plans

A plan is everything there is to build in a project: the archives of one root, and the modules of
the other, linked against the archives. `Tree.plan` finds it. It looks only at the tree and at the
configuration.
-/

namespace NativeBuild

/-- All **targets of a project**. -/
structure BuildPlan where
  archives : List Target
  modules : List Target
  deriving DecidableEq, Repr

namespace BuildPlan

/-- The targets in the order in which they are built: the archives first. -/
def targets (p : BuildPlan) : List Target := p.archives ++ p.modules

/-- The targets of one kind. -/
def ofKind (p : BuildPlan) : TargetKind → List Target
  | .archive => p.archives
  | .module => p.modules

/-- The target of a kind and a name. -/
def find? (p : BuildPlan) (kind : TargetKind) (name : String) : Option Target :=
  (p.ofKind kind).find? fun t => t.name = name

end BuildPlan

namespace Tree

/-- The directives of a file of the tree. A file that cannot be read has none. -/
def directivesAt (t : Tree) (path : Path) : Logged DirectiveSet :=
  match t.readBytes path with
  | .ok bytes => Traced.ofExcept (DirectiveSet.read path (Utf8.decodeLossy bytes))
  | .error fault => do
    Traced.note (.unreadable path fault)
    return .empty

/-- The targets of one root. -/
def targetsOf (t : Tree) (project : Path) (config : Config) (root : String) (kind : TargetKind) :
    Logged (List Target) := do
  let invs ← t.scan project root config.followLinks
  let groups ← invs.mapM fun inv =>
    inv.group kind config.runtime
      (fun file key => Traced.note (.joined file.relPath key))
      (fun file => t.directivesAt file.path)
  return groups.flatMap (·.map Group.target)

/-- Links a module against the archives, and reports the references that no archive answers. -/
def linkModule (table : ArchiveTable) (warn : Bool) (m : Target) : Logged Target := do
  (m.unresolved table).forM fun name => Traced.note (.referenceNotFound warn m.name name)
  return m.link table

/-- The **plan of a project**. -/
def plan (t : Tree) (project : Path) (config : Config) : Logged BuildPlan := do
  -- both roots are checked before either is scanned
  Traced.ofExcept (checkRoot config.archiveRoot)
  Traced.ofExcept (checkRoot config.moduleRoot)
  let archives ← t.targetsOf project config config.archiveRoot .archive
  let table := ArchiveTable.ofTargets archives
  Traced.note (.archivesResolved table.size config.archiveRoot)
  let modules ← t.targetsOf project config config.moduleRoot .module
  let linked ← modules.mapM (linkModule table config.warnUnresolved)
  Traced.note (.modulesResolved linked.length config.moduleRoot)
  return ⟨archives, linked⟩

end Tree

end NativeBuild
