import NativeBuild.CommandLine.Run
import Std.Time.DateTime.Timestamp

/-!
# The program on a disk

The command line at work on real files. The paths that make up the tree are read from standard
input, one on a line and directories among them, as a command that lists a directory prints them;
the files of these paths are read, the run is worked out on the tree that they make
(`CommandLine.run`), and what it changed in the tree is brought onto the disk. A file is replaced in
one step, so that a run which is cut off leaves the old one.
-/

namespace NativeBuild

namespace Tree

/-- The tree with what the disk holds at a path: a directory where no file can be read. -/
def load (t : Tree) (path : String) : IO Tree := do
  let p := Path.ofString path
  match ← (IO.FS.readBinFile path).toBaseIO with
  | .error _ => return (t.makeDirs p).1
  | .ok content =>
    let t := match p.parent? with
      | none => t
      | some above => (t.makeDirs above).1
    return (t.writeFile p content.toList defaultMode).toOption.getD t

/-- The entries of a tree that another one does not have. -/
def since (after before : Tree) : Entries :=
  after.entries.filter fun x => before.get? x.1 != some x.2

/-- Brings an entry onto the disk. Links are never among what a run changes. -/
def store (x : Location × Entry) : IO Unit := do
  let path := x.1.path.display
  match x.2 with
  | .dir => IO.FS.createDirAll path
  | .file content _ =>
    let fresh := path ++ ".new"
    IO.FS.writeBinFile fresh ⟨content.toArray⟩
    IO.FS.rename fresh path
  | .link _ => return ()

end Tree

/-- The text on standard input, to its end. -/
def readInput : IO String := do
  let input ← IO.getStdin
  let mut text := ""
  let mut line ← input.getLine
  while line != "" do
    text := text ++ line
    line ← input.getLine
  return text

end NativeBuild

open NativeBuild in
/-- Runs the program with its arguments; the answer is the exit status. -/
def main (args : List String) : IO UInt32 := do
  let paths := (Text.lines (← readInput).toList).map String.ofList
  let before ← paths.foldlM Tree.load Tree.empty
  let now ← Std.Time.Timestamp.now
  let log ← IO.getEnv "EXTMK_LOG"
  let outcome := CommandLine.run before ⟨now.toSecondsSinceUnixEpoch.val, 0⟩ log args
  (outcome.tree.since before).forM Tree.store
  IO.print outcome.output
  outcome.log.forM IO.eprintln
  return outcome.status.toUInt32
