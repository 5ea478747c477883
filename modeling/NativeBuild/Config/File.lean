import NativeBuild.Config.Toml
import NativeBuild.Error

/-!
# Configuration files

A project may have a configuration file in its directory; a project without one has the default
configuration. A file that is there has to be readable as text and to hold a configuration.
-/

namespace NativeBuild

/-- The configuration that a text makes, if it is one. -/
def Config.ofText? (text : String) : Option Config :=
  (Toml.read? text.toList).bind Config.ofSettings?

namespace Tree

/-- The configuration of the file at a path. -/
def configAt (t : Tree) (path : Path) : Except BuildError Config :=
  match t.readText path with
  | .error fault => .error (.unreadableConfig path fault)
  | .ok text =>
    match Config.ofText? text with
    | some config => .ok config
    | none => .error (.malformedConfig path)

/-- The **configuration of a project**: that of its file, or the default. -/
def configOf (t : Tree) (project : Path) : Except BuildError Config :=
  let path := project.join Config.fileName
  if t.isFileAt path then t.configAt path else .ok .default

end Tree

end NativeBuild
