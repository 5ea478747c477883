import NativeBuild.Inventory
import NativeBuild.Log

/-!
# Scanning a source root

A scan walks a root below the project directory and takes stock of the source files in it: one
inventory for each directory that holds any, in ascending order of the directories' paths from the
root. A root that is not there holds nothing.

A root begins with an ASCII letter, a digit or an underscore, so that it is neither absolute nor an
option to some command nor a step upwards; slashes at its end do not matter.
-/

namespace NativeBuild

/-- May a source root begin with this character? -/
def isRootStart (c : Char) : Bool := c.isAlphanum || c = '_'

/-- Refuses a root that begins otherwise. -/
def checkRoot (root : String) : Except BuildError Unit :=
  match root.toList with
  | c :: _ => if isRootStart c then .ok () else .error (.invalidRoot root)
  | [] => .error (.invalidRoot root)

/-- A root without the slashes at its end. -/
def trimRoot (root : String) : String :=
  String.ofList (root.toList.reverse.dropWhile (· = '/')).reverse

/-- Names from a root, as one path with slashes. -/
def slashPath (names : List Name) : String := "/".intercalate (names.map Name.display)

/-- A source file that a scan came upon, and the directory it is in: as the inventory is called, and
as messages name it. -/
structure Discovered where
  dir : String
  place : Path
  file : SourceFile
  deriving DecidableEq, Repr

/-- The source file that is met under some names below a root, if it is one: its extension is that
of source files, and its name is text. `base` is the path of the root. -/
def Discovered.ofNames? (base : Path) (root : String) (names : List Name) : Option Discovered :=
  match names.getLast? with
  | none => none
  | some last =>
    match last.split with
    | (_, none) => none
    | (stem, some ext) =>
      match Utf8.decode? stem, Utf8.decode? ext with
      | some stem, some ext =>
        if String.ofList ext ∈ sourceExtensions then
          let path := WalkFault.pathFrom base names
          some
            { dir := slashPath names.dropLast
              place := path.parent?.getD base
              file :=
                ⟨path, root ++ "/" ++ slashPath names, String.ofList stem, String.ofList ext⟩ }
        else none
      | _, _ => none

/-- Takes a file into the inventory of its directory. -/
def takeStock (invs : List Inventory) (d : Discovered) : Except BuildError (List Inventory) := do
  let inv ← ((lookup Inventory.dir d.dir invs).getD (.empty d.dir)).insert d.file d.place
  return insertAt Inventory.dir inv invs

/-- The **inventories of a root** below a project directory. -/
def Tree.scan (t : Tree) (project : Path) (root : String) (followLinks : Bool) :
    Logged (List Inventory) := do
  Traced.ofExcept (checkRoot root)
  let base := project.join (.ofString (trimRoot root))
  match t.resolve base with
  | .ok (l, links) =>
    if t.isDir l then
      let walked := t.walk (fun names => (WalkFault.pathFrom base names).fits) followLinks l links
      let found := walked.notes.filterMap (Discovered.ofNames? base (trimRoot root))
      -- files are taken in while the walk goes on, so a clash comes before the walk's own fault
      let invs ← Traced.ofExcept (found.foldlM takeStock [])
      match walked.result with
      | .error fault => Traced.fail (.walk base fault)
      | .ok () =>
        Traced.note (.scanned base invs.length)
        return invs
    else
      Traced.note (.rootMissing base)
      return []
  | .error _ =>
    Traced.note (.rootMissing base)
    return []

end NativeBuild
