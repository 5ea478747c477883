import NativeBuild.Directive.Basic
import NativeBuild.Source
import NativeBuild.Text.Utf8

/-!
# Link targets

A target is what source files are linked to: a static archive, or a module that is loaded at run
time. Beside its sources it has what the sources declare for linking, each flag and each reference
once, in the order of the first declaration.

In a make fragment the variables of a target begin with its `stem`, which spells the kind and the
name of the target in letters, digits and underscores. An underscore in the name is doubled, a slash
is `_S`, and any other byte is `_x` with its two hexadecimal digits, so that different targets have
different stems.
-/

namespace NativeBuild

/-- What a target is. -/
inductive TargetKind where
  /-- A static archive. -/
  | archive
  /-- A module, loaded at run time. -/
  | module
  deriving DecidableEq, Repr, Inhabited

namespace TargetKind

/-- The word for the kind. -/
def word : TargetKind → String
  | archive => "archive"
  | module => "module"

/-- What the stems of the kind begin with. -/
def mark : TargetKind → String
  | archive => "lib"
  | module => "mod"

end TargetKind

/-- The flags that one file declares for its own compilation. -/
structure FileFlags where
  cppflags : List String
  cflags : List String
  cxxflags : List String
  deriving DecidableEq, Repr

namespace FileFlags

/-- The flags that a file with the given directives is compiled with. -/
def ofDirectives (ds : DirectiveSet) : FileFlags :=
  ⟨ds.values .cppflags, ds.values .cflags, ds.values .cxxflags⟩

/-- The flags with the make variables that they set. -/
def overrides (flags : FileFlags) : List (String × List String) :=
  [("FILE_CPPFLAGS", flags.cppflags), ("FILE_CFLAGS", flags.cflags),
    ("FILE_CXXFLAGS", flags.cxxflags)]

end FileFlags

/-- A source file of a target, with its own flags. -/
structure TargetSource where
  file : SourceFile
  flags : FileFlags
  deriving DecidableEq, Repr

/-- A **link target**. -/
structure Target where
  kind : TargetKind
  /-- The directory of the sources and the name of their group. -/
  name : String
  sources : List TargetSource
  linker : Linker
  ldflags : List String
  /-- The names of the archives that the sources refer to. -/
  reflibs : List String
  /-- The archives that have to be there before the target is linked. -/
  prerequisites : List String
  deriving DecidableEq, Repr

/-! ### Lists without repetition -/

/-- Adds a value at the end, unless it is there. -/
def addUnique (l : List String) (v : String) : List String := if v ∈ l then l else l ++ [v]

/-- Adds values at the end, in turn, each unless it is there. -/
def addAllUnique (l vs : List String) : List String := vs.foldl addUnique l

namespace Target

/-- The target of no sources. -/
def empty (kind : TargetKind) (name : String) : Target := ⟨kind, name, [], .plain, [], [], []⟩

/-- How a byte of the name is spelled in the stem. -/
def stemByte (b : UInt8) : List Char :=
  if b = 0x5F then ['_', '_']
  else if b = 0x2F then ['_', 'S']
  else if (Char.ofNat b.toNat).isAlphanum then [Char.ofNat b.toNat]
  else ['_', 'x', Nat.digitChar (b.toNat / 16), Nat.digitChar (b.toNat % 16)]

/-- The **stem** of the target's make variables. -/
def stem (t : Target) : String :=
  t.kind.mark ++ "_" ++ String.ofList ((Utf8.encode t.name.toList).flatMap stemByte)

/-- The file that the target is linked to. -/
def outputPath (t : Target) : String :=
  match t.kind with
  | .archive => "$(LIBDIR)/" ++ t.name ++ ".a"
  | .module => "$(MODDIR)/" ++ t.name ++ "$(SOEXT)"

/-- The link flags with the runtime of the extended language, where a file needs it and there is
one. -/
def withRuntime (linker : Linker) (runtime : String) (ldflags : List String) : List String :=
  if linker = .extended ∧ runtime ≠ "" then addUnique ldflags runtime else ldflags

/-- Takes a file with its directives into the target. -/
def addFile (t : Target) (file : SourceFile) (ds : DirectiveSet) (runtime : String) : Target :=
  { t with
    sources := t.sources ++ [⟨file, .ofDirectives ds⟩]
    linker := t.linker.escalate file.linker
    ldflags := withRuntime file.linker runtime (addAllUnique t.ldflags (ds.values .ldflags))
    reflibs := addAllUnique t.reflibs (ds.values .reflibs) }

end Target

end NativeBuild
