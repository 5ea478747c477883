import NativeBuild.Json.Printer
import NativeBuild.Json.Reader
import NativeBuild.Target.Basic

/-!
# Directives and targets as JSON

The forms in which directives and targets are written as JSON values and read back. A directive is
an object of its kind and its value. A target is an object with its fields in a fixed order; when
one is read the order is free, other fields do not matter, and the prerequisites may be missing.

A target that has a source at a path which is no text has a value all the same, but it cannot be
written to its end.
-/

namespace NativeBuild

/-! ### Directives -/

/-- The value of a directive. -/
def Directive.valueJson : Directive → Json
  | .cppflags v | .cflags v | .cxxflags v => .ofText v
  | .ldflags ts | .reflibs ts => .ofTexts ts

/-- A directive as a JSON value. -/
def Directive.toJson (d : Directive) : Json :=
  .ofFields [("kind", .ofText d.kind.keyword), ("value", d.valueJson)]

/-- The directive of a kind that a value gives. -/
def Directive.ofValue? (k : DirectiveKind) (v : Json) : Option Directive :=
  match k with
  | .cppflags => v.text?.map .cppflags
  | .cflags => v.text?.map .cflags
  | .cxxflags => v.text?.map .cxxflags
  | .ldflags => v.texts?.map .ldflags
  | .reflibs => v.texts?.map .reflibs

/-- The directive that a JSON value describes. -/
def Directive.ofJson? (j : Json) : Option Directive := do
  match ← j.record? ["kind", "value"] with
  | [some kind, some value] => ofValue? (← DirectiveKind.ofWord? (← kind.word?)) value
  | _ => none

/-! ### Words -/

/-- The kind that a word names. -/
def TargetKind.ofWord? (s : String) : Option TargetKind :=
  if s = "archive" then some .archive else if s = "module" then some .module else none

/-- The driver that a word names. -/
def Linker.ofWord? (s : String) : Option Linker :=
  if s = "plain" then some .plain else if s = "extended" then some .extended else none

/-! ### Sources -/

/-- A source file as a JSON value. -/
def SourceFile.toJson (f : SourceFile) : Json :=
  .ofFields [("path", .string f.path.text?), ("rel_path", .ofText f.relPath),
    ("name", .ofText f.name), ("ext", .ofText f.ext)]

/-- The source file that a JSON value describes. -/
def SourceFile.ofJson? (j : Json) : Option SourceFile := do
  match ← j.record? ["path", "rel_path", "name", "ext"] with
  | [some path, some relPath, some name, some ext] =>
    return ⟨.ofString (← path.text?), ← relPath.text?, ← name.text?, ← ext.text?⟩
  | _ => none

/-- Flags as a JSON value. -/
def FileFlags.toJson (f : FileFlags) : Json :=
  .ofFields [("cppflags", .ofTexts f.cppflags), ("cflags", .ofTexts f.cflags),
    ("cxxflags", .ofTexts f.cxxflags)]

/-- The flags that a JSON value describes. -/
def FileFlags.ofJson? (j : Json) : Option FileFlags := do
  match ← j.record? ["cppflags", "cflags", "cxxflags"] with
  | [some cppflags, some cflags, some cxxflags] =>
    return ⟨← cppflags.texts?, ← cflags.texts?, ← cxxflags.texts?⟩
  | _ => none

/-- A source of a target as a JSON value. -/
def TargetSource.toJson (s : TargetSource) : Json :=
  .ofFields [("file", s.file.toJson), ("flags", s.flags.toJson)]

/-- The source of a target that a JSON value describes. -/
def TargetSource.ofJson? (j : Json) : Option TargetSource := do
  match ← j.record? ["file", "flags"] with
  | [some file, some flags] => return ⟨← SourceFile.ofJson? file, ← FileFlags.ofJson? flags⟩
  | _ => none

/-! ### Targets -/

namespace Target

/-- The names of a target's fields, in the order in which they are written. -/
def fieldNames : List String :=
  ["kind", "name", "sources", "linker", "ldflags", "reflibs", "prerequisites"]

/-- A target as a JSON value. -/
def toJson (t : Target) : Json :=
  .ofFields [("kind", .ofText t.kind.word), ("name", .ofText t.name),
    ("sources", .array (t.sources.map TargetSource.toJson)),
    ("linker", .ofText t.linker.word), ("ldflags", .ofTexts t.ldflags),
    ("reflibs", .ofTexts t.reflibs), ("prerequisites", .ofTexts t.prerequisites)]

/-- The **target that a JSON value describes**. -/
def ofJson? (j : Json) : Option Target := do
  match ← j.record? fieldNames with
  | [some kind, some name, some sources, some linker, some ldflags, some reflibs,
      prerequisites] =>
    return {
      kind := ← TargetKind.ofWord? (← kind.word?)
      name := ← name.text?
      sources := ← (← sources.items?).mapM TargetSource.ofJson?
      linker := ← Linker.ofWord? (← linker.word?)
      ldflags := ← ldflags.texts?
      reflibs := ← reflibs.texts?
      prerequisites := ← (prerequisites.getD (.array [])).texts? }
  | _ => none

/-- The target that a text describes. -/
def read? (text : List Char) : Option Target := do ofJson? (← Json.read? text)

end Target

/-- The directive that a text describes. -/
def Directive.read? (text : List Char) : Option Directive := do
  Directive.ofJson? (← Json.read? text)

/-! ### Lists of targets -/

/-- Targets as one JSON array, each part on a line of its own, and a line feed. -/
def writePretty (ts : List Target) : Json.Draft :=
  (Json.array (ts.map Target.toJson)).pretty ++ .of ['\n']

/-- Targets as JSON values on one line each. -/
def writeLines : List Target → Json.Draft
  | [] => .of []
  | t :: rest => t.toJson.compact ++ .of ['\n'] ++ writeLines rest

end NativeBuild
