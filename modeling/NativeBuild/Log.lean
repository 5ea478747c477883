import NativeBuild.Config.Basic
import NativeBuild.Error
import NativeBuild.Traced

/-!
# The log

What a run has to say beside its result. An event is a value, made where it happens; how important
it is follows from what it is, and a run is told afterwards which events to show and how
(`Event.line`).

A `Logged` computation notes events and may fail with a `BuildError`.
-/

namespace NativeBuild

/-- How important an event is, the most important first. -/
inductive Severity where
  | error
  | warn
  | info
  | debug
  deriving DecidableEq, Repr

namespace Severity

/-- The place in the order, from the most important down. -/
def rank : Severity → Nat
  | error => 1
  | warn => 2
  | info => 3
  | debug => 4

/-- The word in front of a line, as wide as the widest. -/
def label : Severity → String
  | error => "ERROR"
  | warn => " WARN"
  | info => " INFO"
  | debug => "DEBUG"

end Severity

/-- Something a run has to say. -/
inductive Event where
  /-- The configuration the run goes by. -/
  | configured (config : Config)
  /-- There is no directory to scan. -/
  | rootMissing (root : Path)
  /-- A root was scanned, and so many directories hold sources. -/
  | scanned (root : Path) (dirs : Nat)
  /-- A source file could not be read and counts as one without directives. -/
  | unreadable (path : Path) (fault : Fault)
  /-- A file joined an open group. -/
  | joined (file group : String)
  /-- The archives are known. -/
  | archivesResolved (count : Nat) (root : String)
  /-- A module refers to an archive that there is not; `warn` if the run is to warn of that. -/
  | referenceNotFound (warn : Bool) (module archive : String)
  /-- The modules are known. -/
  | modulesResolved (count : Nat) (root : String)
  /-- The fragment is in its place. -/
  | wrote (output : Path)
  deriving DecidableEq, Repr

namespace Event

/-- How important the event is. -/
def severity : Event → Severity
  | configured _ | rootMissing _ | scanned _ _ | unreadable _ _ | joined _ _ => .debug
  | referenceNotFound warn _ _ => if warn then .warn else .debug
  | archivesResolved _ _ | modulesResolved _ _ | wrote _ => .info

/-- What happened. -/
def message : Event → String
  | configured _ => "effective configuration"
  | rootMissing _ => "root missing, nothing to scan"
  | scanned _ _ => "scanned"
  | unreadable _ _ => "unreadable source, no directives"
  | joined _ _ => "merged into group"
  | archivesResolved _ _ => "resolved archives"
  | referenceNotFound _ _ _ => "referenced archive not found"
  | modulesResolved _ _ => "resolved modules"
  | wrote _ => "wrote build fragment"

/-- What it happened to: names and values. -/
def fields : Event → List (String × String)
  | configured config => [("config", config.describe)]
  | rootMissing root => [("root", root.display)]
  | scanned root dirs => [("root", root.display), ("dirs", toString dirs)]
  | unreadable path fault => [("path", path.display), ("err", fault.message)]
  | joined file group => [("file", file), ("group", group)]
  | archivesResolved count root => [("archives", toString count), ("root", root)]
  | referenceNotFound _ module archive => [("module", module), ("archive", archive)]
  | modulesResolved count root => [("modules", toString count), ("root", root)]
  | wrote output => [("output", output.display)]

/-- The event as a line of the log. -/
def line (e : Event) : String :=
  e.severity.label ++ " " ++ e.message ++
    String.join (e.fields.map fun x => " " ++ x.1 ++ "=" ++ x.2)

end Event

/-- A computation that notes events and may fail. -/
abbrev Logged := Traced Event BuildError

end NativeBuild
