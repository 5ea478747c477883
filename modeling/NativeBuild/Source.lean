import NativeBuild.Path

/-!
# Source files

What the scanner picks up: files whose extension is that of plain or of extended source. The
extension also decides which compiler driver a target has to be linked with. `Linker` has the two
drivers in ascending order: a target that holds anything extended is linked with the extended
driver, so drivers are combined by `Linker.escalate`, their maximum.
-/

namespace NativeBuild

/-- A **compiler driver** to link with. -/
inductive Linker where
  /-- The driver of the plain language. -/
  | plain
  /-- The driver of the extended language, which brings its runtime. -/
  | extended
  deriving DecidableEq, Repr, Inhabited

namespace Linker

/-- The driver that a file of a given extension needs, if the extension is one of source files. -/
def ofExtension? (ext : String) : Option Linker :=
  if ext = "c" then some plain
  else if ext = "cc" ∨ ext = "cpp" ∨ ext = "cxx" then some extended
  else none

/-- The make variable that names the driver. -/
def makeVariable : Linker → String
  | plain => "$(CC)"
  | extended => "$(CXX)"

/-- The word for the driver. -/
def word : Linker → String
  | plain => "plain"
  | extended => "extended"

/-- The greater of two drivers. -/
def escalate : Linker → Linker → Linker
  | plain, l => l
  | extended, _ => extended

end Linker

/-- The extensions of source files, in the order of the rules that compile them. -/
def sourceExtensions : List String := ["c", "cc", "cpp", "cxx"]

/-- A **source file**: where it was found, its path from the project directory, and its name apart
from its extension. -/
structure SourceFile where
  path : Path
  relPath : String
  name : String
  ext : String
  deriving DecidableEq, Repr

namespace SourceFile

/-- The driver that the file needs. -/
def linker (f : SourceFile) : Linker := (Linker.ofExtension? f.ext).getD .plain

/-- The path of the file without its extension and the dot before it; all of it when it does not end
in them. -/
def stemPath (f : SourceFile) : List Char :=
  match f.ext.toList.isSuffixOf? f.relPath.toList with
  | some front => (['.'].isSuffixOf? front).getD f.relPath.toList
  | none => f.relPath.toList

/-- The object file that the file is compiled to. -/
def objectPath (f : SourceFile) : String :=
  "$(OBJDIR)/" ++ String.ofList f.stemPath ++ ".o"

end SourceFile

end NativeBuild
