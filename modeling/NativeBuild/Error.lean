import NativeBuild.Directive.Basic
import NativeBuild.FileTree.Walk
import NativeBuild.Text.Quoted

/-!
# Errors

Everything that can end a run, by its cause. `BuildError.message` is the text of an error and
`BuildError.causes` are the texts of what lies behind it, for a report that names those as well.
-/

namespace NativeBuild

namespace WalkFault

/-- The path with the given names, seen from `root`. -/
def pathFrom (root : Path) (names : List Name) : Path :=
  if names = [] then root else root.join (Location.path names)

/-- The text of a fault in the walk from `root`. -/
def message (root : Path) : WalkFault → String
  | broken link fault =>
    "IO error for operation on " ++ (pathFrom root link).display ++ ": " ++ fault.message
  | loop link ancestor =>
    "File system loop found: " ++ (pathFrom root link).display ++ " points to an ancestor " ++
      (pathFrom root ancestor).display

/-- The texts of what lies behind such a fault. -/
def causes : WalkFault → List String
  | broken _ fault => [fault.message]
  | loop _ _ => []

end WalkFault

/-- Why a run ended without a result. -/
inductive BuildError where
  /-- A source root begins with a character that no root may begin with. -/
  | invalidRoot (root : String)
  /-- Two source files of one directory have the same name, apart from their extensions. -/
  | duplicateName (dir : Path) (name first second : String)
  /-- A file declares a directive a second time. -/
  | duplicateDirective (path : Path) (line : Nat) (kind : DirectiveKind)
  /-- A source tree could not be walked. -/
  | walk (root : Path) (fault : WalkFault)
  /-- The configuration file could not be read. -/
  | unreadableConfig (path : Path) (fault : Fault)
  /-- The configuration file does not hold a configuration. -/
  | malformedConfig (path : Path)
  /-- The directory of the fragment could not be made. -/
  | outputDirectory (path : Path) (fault : Fault)
  /-- The fragment could not be put in its place. -/
  | output (path : Path) (fault : Fault)
  deriving DecidableEq, Repr

namespace BuildError

/-- The text of an error. -/
def message : BuildError → String
  | invalidRoot root =>
    "invalid root path " ++ Text.Quoted.text root ++
      ": must start with an ASCII letter, digit or underscore"
  | duplicateName dir name first second =>
    "duplicate source name `" ++ name ++ "` in " ++ dir.display ++ ": found both ." ++ first ++
      " and ." ++ second
  | duplicateDirective path line kind =>
    path.display ++ ":" ++ toString line ++ ": duplicate @" ++ kind.keyword ++ ": directive"
  | walk root fault => "failed to walk source tree: " ++ fault.message root
  | unreadableConfig path fault =>
    "failed to read config file " ++ path.display ++ ": " ++ fault.message
  | malformedConfig path => "failed to parse config file " ++ path.display
  | outputDirectory path fault =>
    "cannot create output directory " ++ path.display ++ ": " ++ fault.message
  | output path fault => "cannot write build fragment " ++ path.display ++ ": " ++ fault.message

/-- The texts of what lies behind an error, the nearest first. -/
def causes : BuildError → List String
  | walk root fault => fault.message root :: fault.causes
  | unreadableConfig _ fault | outputDirectory _ fault | output _ fault => [fault.message]
  | invalidRoot _ | duplicateName _ _ _ _ | duplicateDirective _ _ _ | malformedConfig _ => []

/-- An error and what lies behind it, in one line. -/
def report (e : BuildError) : String := ": ".intercalate (e.message :: e.causes)

end BuildError

end NativeBuild
