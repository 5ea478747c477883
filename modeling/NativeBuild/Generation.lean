import NativeBuild.FileTree.Edit
import NativeBuild.Fragment

/-!
# Generating the fragment of a project

A run finds the plan of a project, renders it and puts the text in the place of the previous
fragment. Only the last of these changes the tree. It makes the directory of the fragment, writes
the text to a temporary file there, and moves that to its place in one step; when anything goes
wrong it removes the temporary file again. So nobody ever sees half a fragment, and a run that fails
leaves every file as it was.

The name of the temporary file is drawn at random until one is found that is not taken.
`Tree.generateAs` is a run with a given draw, and `Tree.generate` one with a draw that the tree and
the output path do not mention (`Tree.drawName`).
-/

namespace NativeBuild

/-- What a run that succeeded has to tell. -/
structure Report where
  output : Path
  archives : Nat
  modules : Nat
  deriving DecidableEq, Repr

/-- Where the fragment of a project goes. -/
def Config.outputPath (config : Config) (project : Path) : Path := project.join config.output

/-- The directory of a file at a path. -/
def Path.directory (p : Path) : Path :=
  match p.parent? with
  | some above => if above.bytes = [] then .ofString "." else above
  | none => .ofString "."

namespace Tree

/-! ### Names of temporary files -/

/-- A name for a temporary file, one for each number of six digits. -/
def temporaryName? (k : Nat) : Option Name :=
  Name.ofBytes? (Utf8.encode (".tmp" ++ Timestamp.padded 6 k).toList)

/-- The first of some successive names that is not taken. -/
def firstFree (taken : List Bytes) : (tries k : Nat) → Option Name
  | 0, _ => none
  | tries + 1, k =>
    match (temporaryName? k).filter fun n => !taken.contains n.bytes with
    | some n => some n
    | none => firstFree taken tries (k + 1)

/-- The names that occur in the tree: those of its entries, and those on the way along its links. -/
def mentioned (t : Tree) : List Bytes :=
  t.entries.flatMap fun x =>
    (x.1.getLast?.map Name.bytes).toList ++
      match x.2 with
      | .link target => target.components
      | _ => []

/-- The name of a temporary file, which neither the tree nor the path mentions. -/
def drawName (t : Tree) (output : Path) : Option Name :=
  firstFree (t.mentioned ++ output.components) 1000000 0

/-! ### Runs -/

/-- The mode of a temporary file: it is its owner's alone. -/
def temporaryMode : Nat := 0o600

/-- Writes the content of the temporary file, and gives it the mode that a file at the path is to
have. -/
def prepare (t : Tree) (d : Location) (n : Name) (content : Bytes) (output : Path) : Tree :=
  let filled := t.refill d n content temporaryMode
  filled.refill d n content (filled.modeFor output)

/-- Puts a text in the place of what is at a path, and makes the directories on the way to it.
`drawn` is the name of the temporary file; if none was free, the installation fails. -/
def install (t : Tree) (drawn : Option Name) (output : Path) (text : String) :
    Tree × Except BuildError Unit :=
  match t.makeDirs output.directory with
  | (t', .error fault) => (t', .error (.outputDirectory output.directory fault))
  | (t', .ok ()) =>
    match drawn with
    | none => (t', .error (.output output .alreadyExists))
    | some name =>
      match t'.createFile (output.directory.join name.path) temporaryMode with
      | .error fault => (t', .error (.output output fault))
      | .ok (created, d, n) =>
        let ready := created.prepare d n (Utf8.encode text.toList) output
        match ready.moveFile d n output with
        | .ok t'' => (t'', .ok ())
        -- the temporary file goes, the directories stay
        | .error fault => (ready.erase (d ++ [n]), .error (.output output fault))

/-- Generates the fragment of a project with a drawn name for the temporary file: the tree
afterwards, and what the run has to tell. -/
def generateAs (t : Tree) (drawn : Option Name) (project : Path) (config : Config)
    (written : Timestamp) : Tree × Logged Report :=
  let planned := t.plan project config
  match planned.result with
  | .error e => (t, ⟨planned.notes, .error e⟩)
  | .ok p =>
    let output := config.outputPath project
    match t.install drawn output (Fragment.text p written) with
    | (t', .error e) => (t', ⟨planned.notes, .error e⟩)
    | (t', .ok ()) =>
      (t', ⟨planned.notes ++ [.wrote output],
        .ok ⟨output, p.archives.length, p.modules.length⟩⟩)

/-- **Generates** the fragment of a project. -/
def generate (t : Tree) (project : Path) (config : Config) (written : Timestamp) :
    Tree × Logged Report :=
  t.generateAs (t.drawName (config.outputPath project)) project config written

end Tree

end NativeBuild
