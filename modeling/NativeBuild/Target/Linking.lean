import NativeBuild.Target.Basic

/-!
# Linking against archives

A target names the archives that it refers to. What it takes over from an archive is the path of the
archive itself, which is a flag and a prerequisite, the archive's own link flags, and the driver the
archive needs. A name that no archive has adds nothing and is reported; the link itself is where it
fails.

`ArchiveTable` finds archives by name. When two have the same name the later one counts.
-/

namespace NativeBuild

/-- What a target takes over from an archive. -/
structure ArchiveEntry where
  output : String
  linker : Linker
  ldflags : List String
  deriving DecidableEq, Repr

/-- The entry of an archive. -/
def ArchiveEntry.ofTarget (t : Target) : ArchiveEntry := ⟨t.outputPath, t.linker, t.ldflags⟩

/-- **Archives by name**, in the order in which the names came up. -/
structure ArchiveTable where
  entries : List (String × ArchiveEntry)
  deriving DecidableEq, Repr

namespace ArchiveTable

/-- Enters an archive under a name, in the place of an earlier one. -/
def enter (name : String) (e : ArchiveEntry) :
    List (String × ArchiveEntry) → List (String × ArchiveEntry)
  | [] => [(name, e)]
  | x :: r => if x.1 = name then (name, e) :: r else x :: enter name e r

/-- The table of the archives among some targets. -/
def ofTargets (ts : List Target) : ArchiveTable :=
  ⟨(ts.filter fun t => t.kind = .archive).foldl
    (fun es t => enter t.name (.ofTarget t) es) []⟩

/-- The archive of a name. -/
def get? (table : ArchiveTable) (name : String) : Option ArchiveEntry :=
  (table.entries.find? fun x => x.1 = name).map Prod.snd

/-- The number of names. -/
def size (table : ArchiveTable) : Nat := table.entries.length

end ArchiveTable

namespace Target

/-- Takes over what an archive brings. -/
def addArchive (t : Target) (a : ArchiveEntry) : Target :=
  { t with
    ldflags := addAllUnique (addUnique t.ldflags a.output) a.ldflags
    prerequisites := addUnique t.prerequisites a.output
    linker := t.linker.escalate a.linker }

/-- Takes over the archives of the given names that there are. -/
def addArchives (table : ArchiveTable) (t : Target) : List String → Target
  | [] => t
  | name :: rest =>
    match table.get? name with
    | some a => addArchives table (t.addArchive a) rest
    | none => addArchives table t rest

/-- **Links** a target against the archives that it refers to. -/
def link (t : Target) (table : ArchiveTable) : Target := t.addArchives table t.reflibs

/-- The references of a target that no archive answers, in order. -/
def unresolved (t : Target) (table : ArchiveTable) : List String :=
  t.reflibs.filter fun name => (table.get? name).isNone

end Target

end NativeBuild
