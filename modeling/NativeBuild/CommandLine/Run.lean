import NativeBuild.CommandLine.Invocation
import NativeBuild.Config.File
import NativeBuild.Generation
import NativeBuild.Pattern.Matching
import NativeBuild.Pattern.Parser
import NativeBuild.Target.Json
import NativeBuild.Text.Quoted

/-!
# Running the program

From arguments, the file tree and the time to everything that can be seen of a run: the tree
afterwards, what is written to the output, the lines of the log, and the exit status. A run that
fails ends its log with the error and has status 1; arguments that make no sense give status 2.

The log shows the events of some severities only: those asked for by an option, or by the word that
the environment gives, or else warnings and errors.
-/

namespace NativeBuild.CommandLine

/-- Everything that can be seen of a run. -/
structure Outcome where
  tree : Tree
  status : Nat
  output : String
  log : List String

/-- A step of a run: it makes notes, and a failure is the text that reports it. -/
abbrev Step := Traced Event String

/-- A step of the library as one of a run; `context` stands in front of a failure. -/
def reporting {α : Type} (context : String) (x : Logged α) : Step α :=
  ⟨x.notes, x.result.mapError fun e => context ++ e.report⟩

/-! ### What is logged -/

/-- How far down the order of severities events are shown. -/
def threshold (i : Invocation) (word : Option String) : Nat :=
  if i.verbose then Severity.debug.rank
  else if i.quiet then Severity.error.rank
  else
    match word.map fun w => String.ofList (w.toList.map Char.toLower) with
    | some "off" => 0
    | some "error" => Severity.error.rank
    | some "info" => Severity.info.rank
    | some "debug" => Severity.debug.rank
    | _ => Severity.warn.rank

/-- The lines of the log for some events. -/
def logLines (threshold : Nat) (events : List Event) : List String :=
  (events.filter fun e => e.severity.rank ≤ threshold).map Event.line

/-! ### Commands -/

/-- The configuration of a command: from a file or the default, with what the options set. -/
def loadConfig (t : Tree) (o : ProjectOptions) : Step Config := do
  let config ← reporting "" (Traced.ofExcept
    (match o.config with
      | some path => t.configAt path
      | none => t.configOf o.project))
  let config := { config with
    archiveRoot := o.archiveRoot.getD config.archiveRoot
    moduleRoot := o.moduleRoot.getD config.moduleRoot
    followLinks := config.followLinks || o.followLinks
    warnUnresolved := config.warnUnresolved || o.warnUnresolved }
  Traced.note (.configured config)
  return config

/-- The text that tells of a run that generated a fragment. -/
def reportText (r : Report) : String :=
  "wrote " ++ r.output.display ++ " (" ++ toString r.archives ++ " archives, " ++
    toString r.modules ++ " modules)\n"

/-- Generates a fragment: the tree afterwards, and what is written to the output. -/
def runGenerate (t : Tree) (now : Timestamp) (o : ProjectOptions) (output : Option Path) :
    Tree × Step String :=
  let loaded := loadConfig t o
  match loaded.result with
  | .error e => (t, ⟨loaded.notes, .error e⟩)
  | .ok config =>
    let config := { config with output := output.getD config.output }
    let (t', done) := t.generate o.project config now
    (t', do
      let _ ← loaded
      let r ← reporting ("generating build fragment for " ++ o.project.display ++ ": ") done
      return reportText r)

/-- What the report of a text that gives no pattern ends in. -/
def refusalText : Pattern.Refusal → String
  | .malformed => ""
  | .tooLarge => ": Compiled regex exceeds size limit of 10485760 bytes."

/-- The patterns that some texts denote. -/
def readPatterns (texts : List String) : Except String (List Pattern) :=
  texts.mapM fun text =>
    (Pattern.ofString text).mapError fun r => "invalid regex: " ++ text ++ refusalText r

/-- Is a target to be shown: is there no pattern, or does its name match one? -/
def isSelected (ps : List Pattern) (t : Target) : Bool :=
  ps.isEmpty || ps.any (·.isMatch t.name)

/-- A target as a line of words. -/
def plainLine (t : Target) : String :=
  t.kind.word ++ " " ++ t.name ++ " " ++ t.linker.word ++ " " ++ toString t.sources.length ++
    (if t.sources.length = 1 then " file\n" else " files\n")

/-- Targets in a format. -/
def showTargets (format : PlanFormat) (ts : List Target) : Json.Draft :=
  match format with
  | .plain => .of (String.join (ts.map plainLine)).toList
  | .json => writePretty ts
  | .jsonLines => writeLines ts

/-- Shows the plan of a project. -/
def runPlan (t : Tree) (o : ProjectOptions) (patterns : List String) (format : PlanFormat) :
    Step Json.Draft := do
  let config ← loadConfig t o
  let ps ← Traced.ofExcept (readPatterns patterns)
  let plan ← reporting ("resolving targets in " ++ o.project.display ++ ": ")
    (t.plan o.project config)
  return showTargets format (plan.targets.filter (isSelected ps))

/-- A directive as a line: its kind and its value. -/
def directiveLine (d : Directive) : String :=
  d.kind.keyword ++ " = " ++
    (if d.kind.isTokenized then Text.Quoted.list d.values
      else Text.Quoted.text (" ".intercalate d.values)) ++ "\n"

/-- The directives of a file as text. -/
def showDirectives (file : Path) (json : Bool) (s : DirectiveSet) : Json.Draft :=
  if json then (Json.array (s.entries.map Directive.toJson)).pretty ++ .of ['\n']
  else if s.isEmpty then .of (file.display ++ ": no directives\n").toList
  else .of (String.join (s.entries.map directiveLine)).toList

/-- Shows the directives of a file. -/
def runDirectives (t : Tree) (file : Path) (json : Bool) : Step Json.Draft := do
  let s ← reporting "" (t.directivesAt file)
  return showDirectives file json s

/-! ### Runs -/

/-- The error of a run whose output could not be written to its end. -/
def unwritable : String := "path contains invalid UTF-8 characters"

/-- A run of the commands: the tree afterwards, the notes, what was written, and how it failed. -/
def execute (t : Tree) (now : Timestamp) (c : Command) :
    Tree × List Event × String × Option String :=
  let shown := fun (x : Step Json.Draft) =>
    match x.result with
    | .error e => (t, x.notes, "", some e)
    | .ok d => (t, x.notes, String.ofList d.text, if d.complete then none else some unwritable)
  match c with
  | .generate o output =>
    match runGenerate t now o output with
    | (t', ⟨notes, .ok text⟩) => (t', notes, text, none)
    | (t', ⟨notes, .error e⟩) => (t', notes, "", some e)
  | .plan o patterns format => shown (runPlan t o patterns format)
  | .directives file json => shown (runDirectives t file json)

/-- The program's name and version. -/
def versionText : String := "extmk 0.3.0\n"

/-- A summary of the commands. -/
def helpText : String :=
  "Generate a make fragment for native extension modules\n\n" ++
    "Usage: extmk [-v | -q] generate | plan | directives FILE\n"

/-- **Runs the program**: `log` is the word that the environment gives for the log. -/
def run (t : Tree) (now : Timestamp) (log : Option String) (args : List String) : Outcome :=
  match Invocation.ofArgs args with
  | .error .help => ⟨t, 0, helpText, []⟩
  | .error .version => ⟨t, 0, versionText, []⟩
  | .error .usage => ⟨t, 2, "", []⟩
  | .ok i =>
    let (t', notes, output, error) := execute t now i.command
    let lines := logLines (threshold i log) notes
    match error with
    | none => ⟨t', 0, output, lines⟩
    | some e => ⟨t', 1, output, lines ++ ["error: " ++ e]⟩

end NativeBuild.CommandLine
