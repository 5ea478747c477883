import NativeBuild.Plan
import NativeBuild.Timestamp

/-!
# Make fragments

A fragment is a plan written as rules for `make`. It is a list of lines: a header with the time of
writing, default values for the variables of the toolchain, a compile rule for each extension, a
stanza for each target in the order of the plan, and last an assignment of the names of all modules.

A stanza assigns the four variables of its target, whose names begin with the target's stem, then
the flags of single objects, and then gives the rule that links the target. Every piece is a list of
lines of its own, so that it can be spoken of by itself.
-/

namespace NativeBuild

namespace Fragment

/-- The variable that lists the names of all modules. -/
def manifestVariable : String := "EXTMK_MODULES"

/-- An assignment of values to a variable. -/
def assignment (var : String) (values : List String) : String :=
  var ++ " :=" ++ String.join (values.map (" " ++ ·))

/-- The lines in front: a warning, the time of writing, a blank line. -/
def header (written : Timestamp) : List String :=
  ["# Generated by extmk. DO NOT EDIT: this file is rewritten on every run.",
    "# Generated at: " ++ written.text, ""]

/-- The variables with a default value. -/
def defaults : List (String × String) :=
  [("CC", "cc"), ("CXX", "c++"), ("AR", "ar"), ("RANLIB", "ranlib"), ("OBJDIR", "build/obj"),
    ("LIBDIR", "build/lib"), ("MODDIR", "build/modules"), ("SOEXT", ".so")]

/-- The lines that give the defaults, and a blank line. -/
def defaultLines : List String := defaults.map (fun x => x.1 ++ " ?= " ++ x.2) ++ [""]

/-- How files of one extension are compiled. -/
structure CompileRule where
  ext : String
  compiler : String
  /-- What the names of the flag variables end in. -/
  flags : String
  deriving DecidableEq, Repr

/-- The **compile rules**, one for each extension of source files. -/
def compileRules : List CompileRule :=
  [⟨"c", "$(CC)", "CFLAGS"⟩, ⟨"cc", "$(CXX)", "CXXFLAGS"⟩, ⟨"cpp", "$(CXX)", "CXXFLAGS"⟩,
    ⟨"cxx", "$(CXX)", "CXXFLAGS"⟩]

/-- The line of a recipe that makes the directory of what is built. -/
def makeDirectory : String := "\t@mkdir -p $(@D)"

/-- The lines of a compile rule, and a blank line. -/
def CompileRule.lines (r : CompileRule) : List String :=
  ["$(OBJDIR)/%.o: %." ++ r.ext,
    makeDirectory,
    "\t" ++ r.compiler ++ " $(GLOBAL_CPPFLAGS) $(FILE_CPPFLAGS) $(GLOBAL_" ++ r.flags ++
      ") $(PLATFORM_" ++ r.flags ++ ") $(COVERAGE_" ++ r.flags ++ ") $(SANITIZER_" ++ r.flags ++
      ") $(FILE_" ++ r.flags ++ ") -c $< -o $@",
    ""]

/-- The flags that every module is linked with, after its own. -/
def sharedLinkFlags : String :=
  "$(GLOBAL_LDFLAGS) $(PLATFORM_LDFLAGS) $(COVERAGE_LDFLAGS) $(SANITIZER_LDFLAGS)"

/-- The lines that set the flags of one object; a variable without flags is not set. -/
def overrideLines (s : TargetSource) : List String :=
  (s.flags.overrides.filter fun x => x.2 ≠ []).map fun x =>
    s.file.objectPath ++ ": " ++ x.1 ++ " := " ++ " ".intercalate x.2

/-- The lines that assign a target's variables. -/
def assignments (t : Target) : List String :=
  [assignment (t.stem ++ "_SOURCES") (t.sources.map (·.file.relPath)),
    assignment (t.stem ++ "_OBJECTS") (t.sources.map (·.file.objectPath)),
    t.stem ++ "_LINKER := " ++ t.linker.makeVariable,
    assignment (t.stem ++ "_LDFLAGS") t.ldflags]

/-- The rule that links a target. -/
def linkRule (t : Target) : List String :=
  let objects := "$(" ++ t.stem ++ "_OBJECTS)"
  match t.kind with
  | .archive =>
    [t.outputPath ++ ": " ++ objects,
      makeDirectory,
      "\t$(AR) rcs $@ " ++ objects,
      "\t$(RANLIB) $@"]
  | .module =>
    [t.outputPath ++ ": " ++ objects ++ String.join (t.prerequisites.map (" " ++ ·)),
      makeDirectory,
      "\t$(" ++ t.stem ++ "_LINKER) -shared -o $@ " ++ objects ++ " $(" ++ t.stem ++ "_LDFLAGS) " ++
        sharedLinkFlags]

/-- The **stanza** of a target. -/
def stanza (t : Target) : List String :=
  ("# " ++ t.kind.word ++ " " ++ t.name) ::
    (assignments t ++ t.sources.flatMap overrideLines ++ linkRule t)

/-- All lines of the fragment of a plan. -/
def lines (p : BuildPlan) (written : Timestamp) : List String :=
  header written ++ defaultLines ++ compileRules.flatMap CompileRule.lines ++
    p.targets.flatMap (fun t => stanza t ++ [""]) ++
    [assignment manifestVariable (p.modules.map Target.name)]

/-- The **text of the fragment** of a plan. -/
def text (p : BuildPlan) (written : Timestamp) : String :=
  String.join ((lines p written).map (· ++ "\n"))

end Fragment

end NativeBuild
