import NativeBuild.Path
import NativeBuild.Text.Quoted

/-!
# Configuration

What a project can set about a run: its two source roots, where the fragment goes, the runtime of
the extended language, and two switches. A setting that is not made has a default. Settings come by
name from a configuration file or another record of names and values; `Config.ofSettings?` reads
such a record, and refuses an unknown name, a name that occurs twice and a value of the wrong type.
-/

namespace NativeBuild

/-- The **configuration** of a run. -/
structure Config where
  /-- The root of the archives' sources, from the project directory. -/
  archiveRoot : String
  /-- The root of the modules' sources, from the project directory. -/
  moduleRoot : String
  /-- Where the fragment goes, from the project directory unless absolute. -/
  output : Path
  /-- The link flag of the extended language's runtime; empty for none. -/
  runtime : String
  followLinks : Bool
  /-- Whether a reference to no archive deserves a warning. -/
  warnUnresolved : Bool
  deriving DecidableEq, Repr

/-- What a setting is set to. -/
inductive SettingValue where
  | text (s : String)
  | flag (b : Bool)
  /-- A value of another type, which no setting takes. -/
  | other
  deriving DecidableEq, Repr

namespace Config

/-- The configuration of a project that sets nothing. -/
def default : Config :=
  ⟨"lib", "src", .ofString "build/native.mk", "-lstdc++", false, false⟩

/-- The name of the configuration file of a project. -/
def fileName : Path := .ofString "extmk.toml"

/-- Makes one setting. -/
def set? (c : Config) (name : String) (value : SettingValue) : Option Config :=
  match name, value with
  | "archive_root", .text s => some { c with archiveRoot := s }
  | "module_root", .text s => some { c with moduleRoot := s }
  | "output", .text s => some { c with output := .ofString s }
  | "cxx_runtime", .text s => some { c with runtime := s }
  | "follow_symlinks", .flag b => some { c with followLinks := b }
  | "warn_unresolved_references", .flag b => some { c with warnUnresolved := b }
  | _, _ => none

/-- Makes settings in turn. -/
def setAll? (c : Config) : List (String × SettingValue) → Option Config
  | [] => some c
  | (name, value) :: rest =>
    match c.set? name value with
    | some c' => c'.setAll? rest
    | none => none

/-- The configuration that a record of settings makes, if it is one. -/
def ofSettings? (settings : List (String × SettingValue)) : Option Config :=
  if (settings.map Prod.fst).Nodup then default.setAll? settings else none

/-- The settings of a configuration, by name. -/
def settings (c : Config) : List (String × SettingValue) :=
  [("archive_root", .text c.archiveRoot), ("module_root", .text c.moduleRoot),
    ("output", .text c.output.display), ("cxx_runtime", .text c.runtime),
    ("follow_symlinks", .flag c.followLinks),
    ("warn_unresolved_references", .flag c.warnUnresolved)]

/-- The configuration that a list of values makes, if it is one: each value is that of a setting, in
the order of the settings, and those that it is too short for are not made. -/
def ofValues? (values : List SettingValue) : Option Config :=
  let names := default.settings.map Prod.fst
  if values.length ≤ names.length then ofSettings? (names.zip values) else none

/-- A setting's value as it is shown. -/
def showValue : SettingValue → String
  | .text s => Text.Quoted.text s
  | .flag b => if b then "true" else "false"
  | .other => "?"

/-- A configuration as it is shown: all settings, in braces. -/
def describe (c : Config) : String :=
  "GeneratorConfig \x7b " ++
    ", ".intercalate (c.settings.map fun x => x.1 ++ ": " ++ showValue x.2) ++ " \x7d"

end Config

end NativeBuild
