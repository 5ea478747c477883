import NativeBuild.Ascending
import NativeBuild.Error
import NativeBuild.Source

/-!
# Inventories

The source files of one directory, in ascending order of their names and at most one of each name,
whatever its extension. A second file with a name is refused and leaves the inventory as it was.
-/

namespace NativeBuild

/-- The **source files of one directory**; `dir` is its path from the scanned root, empty for the
root. -/
structure Inventory where
  dir : String
  files : List SourceFile
  ascending : Ascending SourceFile.name files
  deriving DecidableEq, Repr

namespace Inventory

/-- The inventory of no files. -/
def empty (dir : String) : Inventory := ⟨dir, [], Ascending.nil⟩

/-- The names of the files, ascending. -/
def names (inv : Inventory) : List String := inv.files.map SourceFile.name

/-- The file of a given name. -/
def get? (inv : Inventory) (name : String) : Option SourceFile :=
  lookup SourceFile.name name inv.files

/-- The number of files. -/
def size (inv : Inventory) : Nat := inv.files.length

/-- Are there no files? -/
def isEmpty (inv : Inventory) : Bool := inv.files.isEmpty

/-- The inventory with a file put where its name belongs. -/
def put (inv : Inventory) (file : SourceFile) : Inventory where
  dir := inv.dir
  files := insertAt SourceFile.name file inv.files
  ascending := inv.ascending.insertAt

/-- **Offers a file**: the inventory afterwards, and whether the file was refused. `place` is the
directory that an error names. -/
def offer (inv : Inventory) (file : SourceFile) (place : Path) :
    Inventory × Except BuildError Unit :=
  match inv.get? file.name with
  | some first => (inv, .error (.duplicateName place file.name first.ext file.ext))
  | none => (inv.put file, .ok ())

/-- The inventory with one more file, unless that is refused. -/
def insert (inv : Inventory) (file : SourceFile) (place : Path) : Except BuildError Inventory :=
  match inv.offer file place with
  | (inv', .ok ()) => .ok inv'
  | (_, .error e) => .error e

variable {inv : Inventory} {file : SourceFile} {place : Path}

@[simp] theorem dir_put : (inv.put file).dir = inv.dir := rfl

@[simp] theorem files_put :
    (inv.put file).files = insertAt SourceFile.name file inv.files := rfl

/-- A file whose name is taken is refused. -/
theorem offer_of_some {first : SourceFile} (h : inv.get? file.name = some first) :
    inv.offer file place = (inv, .error (.duplicateName place file.name first.ext file.ext)) := by
  rw [offer, h]

/-- A file with a new name is put in. -/
theorem offer_of_none (h : inv.get? file.name = none) :
    inv.offer file place = (inv.put file, .ok ()) := by
  rw [offer, h]

theorem insert_of_some {first : SourceFile} (h : inv.get? file.name = some first) :
    inv.insert file place = .error (.duplicateName place file.name first.ext file.ext) := by
  rw [insert, offer_of_some h]

theorem insert_of_none (h : inv.get? file.name = none) :
    inv.insert file place = .ok (inv.put file) := by
  rw [insert, offer_of_none h]

end Inventory

end NativeBuild
