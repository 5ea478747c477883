import NativeBuild.CommandLine.Options
import NativeBuild.Path

/-!
# Invocations

What the program can be asked to do: to generate the fragment of a project, to show its plan, or to
show the directives of one file. `Invocation.ofArgs` reads an invocation from the arguments of the
command line.

Each command has its own options. The two that say how much is logged can stand on either side of
the command, and exclude each other only on the same side.
-/

namespace NativeBuild.CommandLine

/-- Which project a command is about, and what is set for it beside its configuration file. -/
structure ProjectOptions where
  project : Path
  /-- The configuration file, if it is not that of the project. -/
  config : Option Path
  archiveRoot : Option String
  moduleRoot : Option String
  followLinks : Bool
  warnUnresolved : Bool
  deriving DecidableEq, Repr

/-- How a plan is shown. -/
inductive PlanFormat where
  /-- A line of words for each target. -/
  | plain
  /-- One JSON array. -/
  | json
  /-- A line of JSON for each target. -/
  | jsonLines
  deriving DecidableEq, Repr

/-- A **command**. -/
inductive Command where
  | generate (project : ProjectOptions) (output : Option Path)
  | plan (project : ProjectOptions) (patterns : List String) (format : PlanFormat)
  | directives (file : Path) (json : Bool)
  deriving DecidableEq, Repr

/-- A command, and how much is to be logged meanwhile. -/
structure Invocation where
  verbose : Bool
  quiet : Bool
  command : Command
  deriving DecidableEq, Repr

/-! ### Levels -/

/-- An option without a value. -/
def switch (letter : Option Char) (word : String) : OptionSpec := ⟨letter, word, false, false, true⟩

/-- An option whose value is a text. -/
def textOption (letter : Option Char) (word : String) : OptionSpec :=
  ⟨letter, word, true, false, true⟩

/-- An option whose value is a path, which is not empty. -/
def pathOption (letter : Option Char) (word : String) : OptionSpec :=
  ⟨letter, word, true, false, false⟩

/-- The options that say how much is logged. -/
def logOptions : List OptionSpec := [switch (some 'v') "verbose", switch (some 'q') "quiet"]

/-- The options about a project. -/
def projectOptions : List OptionSpec :=
  [pathOption (some 'C') "project", pathOption none "config", textOption none "archive-root",
    textOption none "module-root", switch none "follow-symlinks", switch none "warn-unresolved"]

/-- The level in front of the command. -/
def topLevel : Level := ⟨logOptions, ["generate", "plan", "directives", "help"], 0, true⟩

/-- The level of the command that generates. -/
def generateLevel : Level :=
  ⟨logOptions ++ projectOptions ++ [pathOption (some 'o') "output"], [], 0, false⟩

/-- The level of the command that shows a plan. -/
def planLevel : Level :=
  ⟨logOptions ++ projectOptions ++
    [⟨some 'n', "name", true, true, true⟩, switch none "json", switch none "ndjson"], [], 0, false⟩

/-- The level of the command that shows directives. -/
def directivesLevel : Level := ⟨logOptions ++ [switch none "json"], [], 1, false⟩

/-! ### Reading -/

/-- Refuses two options together. -/
def exclude (g : Given) (a b : String) : Except Halt Unit :=
  if g.has a && g.has b then .error .usage else .ok ()

/-- What was given about a project. -/
def ProjectOptions.ofGiven (g : Given) : ProjectOptions where
  project := .ofString ((g.value? "project").getD ".")
  config := (g.value? "config").map .ofString
  archiveRoot := g.value? "archive-root"
  moduleRoot := g.value? "module-root"
  followLinks := g.has "follow-symlinks"
  warnUnresolved := g.has "warn-unresolved"

/-- Reads the level of a command, and the command from what was given. -/
def readCommand (name : String) (args : List String) : Except Halt (Given × Command) :=
  match name with
  | "generate" => do
    let (g, _) ← generateLevel.read args
    return (g, .generate (.ofGiven g) ((g.value? "output").map .ofString))
  | "plan" => do
    let (g, _) ← planLevel.read args
    exclude g "json" "ndjson"
    let format := if g.has "ndjson" then PlanFormat.jsonLines
      else if g.has "json" then .json else .plain
    return (g, .plan (.ofGiven g) (g.values "name") format)
  | "directives" => do
    let (g, _) ← directivesLevel.read args
    match g.operands with
    | [file] => return (g, .directives (.ofString file) (g.has "json"))
    | _ => .error .usage
  | _ =>
    -- help about a command, which has no commands of its own
    if args.length < 2 ∧ args.all (· ∈ topLevel.commands) then .error .help else .error .usage

/-- The **invocation that arguments make**. -/
def Invocation.ofArgs (args : List String) : Except Halt Invocation := do
  let (outer, command) ← topLevel.read args
  match command with
  | none => .error .usage
  | some (name, rest) => do
    let (inner, command) ← readCommand name rest
    exclude inner "verbose" "quiet"
    exclude outer "verbose" "quiet"
    return ⟨outer.has "verbose" || inner.has "verbose", outer.has "quiet" || inner.has "quiet",
      command⟩

end NativeBuild.CommandLine
