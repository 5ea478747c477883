import NativeBuild.Plan
import NativeBuild.Target.Json

/-!
# Plans as JSON

The form in which a plan is written as a JSON value and read back: an object of its archives and its
modules. When one is read, both must be there, and other fields do not matter.
-/

namespace NativeBuild.BuildPlan

/-- A plan as a JSON value. -/
def toJson (p : BuildPlan) : Json :=
  .ofFields [("archives", .array (p.archives.map Target.toJson)),
    ("modules", .array (p.modules.map Target.toJson))]

/-- The targets that the items of a JSON array describe. -/
def targetsOfJson? (j : Json) : Option (List Target) := do (← j.items?).mapM Target.ofJson?

/-- The **plan that a JSON value describes**. -/
def ofJson? (j : Json) : Option BuildPlan := do
  match ← j.record? ["archives", "modules"] with
  | [some archives, some modules] => return ⟨← targetsOfJson? archives, ← targetsOfJson? modules⟩
  | _ => none

end NativeBuild.BuildPlan
