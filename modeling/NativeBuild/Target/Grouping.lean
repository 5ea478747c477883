import NativeBuild.Inventory
import NativeBuild.Target.Basic

/-!
# Grouping sibling files

The files of a directory that belong together carry names that begin alike. They are taken in
ascending order of their names. A file joins an open group whose key is a proper prefix of its name;
if there is none, it opens a group, and its name is the key. So `a`, `ab` and `abc` are one group,
and its key is `a`.

`groupWith` is this loop for any rule that chooses among the open keys, and in any monad in which
directives are looked up; `group` chooses the first key that was opened.
-/

namespace NativeBuild

/-- A group of files on its way to being a target. -/
structure Group where
  key : String
  target : Target
  deriving DecidableEq, Repr

/-- Is `k` a prefix of `s`, and shorter? -/
def isProperPrefix (k s : String) : Bool := k.toList.isPrefixOf s.toList && k != s

/-- The name of the target of a group, below its directory. -/
def qualifiedName (dir key : String) : String := if dir = "" then key else dir ++ "/" ++ key

/-- A rule that chooses among the open keys the one that a name joins. -/
abbrev KeyChoice := List String → String → Option String

/-- The first open key that is a proper prefix. -/
def firstOpen : KeyChoice := fun keys name => keys.find? fun k => isProperPrefix k name

/-- What the targets of one directory have in common. -/
structure GroupContext where
  dir : String
  kind : TargetKind
  runtime : String

/-- Takes a file into the group of a key, which is opened at the end if it is not there. -/
def addToGroup (ctx : GroupContext) (key : String) (file : SourceFile) (ds : DirectiveSet) :
    List Group → List Group
  | [] => [⟨key, (Target.empty ctx.kind (qualifiedName ctx.dir key)).addFile file ds ctx.runtime⟩]
  | g :: r =>
    if g.key = key then ⟨g.key, g.target.addFile file ds ctx.runtime⟩ :: r
    else g :: addToGroup ctx key file ds r

/-- Takes files into groups, in turn: asks for the directives of each, and reports each that joins a
group. -/
def groupWith {m : Type → Type} [Monad m] (choose : KeyChoice)
    (onJoin : SourceFile → String → m Unit) (directivesOf : SourceFile → m DirectiveSet)
    (ctx : GroupContext) : List SourceFile → List Group → m (List Group)
  | [], groups => pure groups
  | file :: rest, groups => do
    -- asked for first, so a file that is refused is not reported
    let ds ← directivesOf file
    match choose (groups.map Group.key) file.name with
    | some key =>
      onJoin file key
      groupWith choose onJoin directivesOf ctx rest (addToGroup ctx key file ds groups)
    | none =>
      groupWith choose onJoin directivesOf ctx rest (addToGroup ctx file.name file ds groups)

/-- The **groups of a directory**, in the order in which they were opened. -/
def Inventory.group {m : Type → Type} [Monad m] (inv : Inventory) (kind : TargetKind)
    (runtime : String) (onJoin : SourceFile → String → m Unit)
    (directivesOf : SourceFile → m DirectiveSet) : m (List Group) :=
  groupWith firstOpen onJoin directivesOf ⟨inv.dir, kind, runtime⟩ inv.files []

end NativeBuild
