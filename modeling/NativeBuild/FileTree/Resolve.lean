import NativeBuild.FileTree.Basic
import NativeBuild.FileTree.Fault

/-!
# Where a path leads

A path is followed a step at a time, from the top of the tree. The top is the working directory:
paths that are not absolute start there, and so do those that are. A step up from the top stays
there. Every step needs a directory to start in. A step to a link goes on with the path that the
link holds, seen from the directory of the link; a last step to a link may be asked to stop there.
No more than `linkLimit` links are followed, and that is why following ends: each link spends one of
them, and every other step makes the rest of the way shorter.

`Tree.follow` answers with a `Place`: a location where there is an entry, or a name that a directory
does not have. The number of links that could still be followed is part of the answer, since a walk
that goes on from there has only those.

Some paths are refused before they are followed (`Path.fault?`): those that hold a zero byte, the
empty one, and those that are too long.
-/

namespace NativeBuild

/-- Where a path leads. -/
inductive Place where
  /-- To the entry at a location. -/
  | occupied (l : Location)
  /-- To a name that a directory does not have. -/
  | vacant (dir : Location) (name : Name)
  deriving DecidableEq, Repr

/-- A place, and how many links may still be followed from it. -/
structure Arrival where
  place : Place
  links : Nat
  deriving DecidableEq, Repr

/-- The number of links that are followed on one way. -/
def linkLimit : Nat := 40

namespace Path

/-- The number of bytes that a path may have. -/
def lengthLimit : Nat := 4095

/-- Is the path short enough to be followed? -/
def fits (p : Path) : Bool := p.bytes.length ≤ lengthLimit

/-- Why a path cannot be followed in any tree, if it cannot. -/
def fault? (p : Path) : Option Fault :=
  if p.bytes.contains 0 then some .zeroByte
  else if p.bytes = [] then some .notFound
  else if p.fits then none
  else some .nameTooLong

/-- The steps along a path; a slash at its end is a step too, because it needs a directory. -/
def walk (p : Path) : List Step := p.steps ++ if p.endsInSlash then [.here] else []

end Path

namespace Tree

/-- **Follows steps** from a location, spending `links` on the links on the way. With `last`, a link
at the last step is followed as well. -/
def follow (t : Tree) (last : Bool) (links : Nat) (l : Location) :
    List Path.Step → Except Fault Arrival
  | [] => .ok ⟨.occupied l, links⟩
  | step :: rest =>
    if t.isDir l then
      match step with
      | .here => follow t last links l rest
      | .up => follow t last links l.dropLast rest
      | .down b =>
        match Name.ofBytes? b with
        | none => .error .nameTooLong
        | some n =>
          match t.get? (l ++ [n]) with
          | none => if rest = [] then .ok ⟨.vacant l n, links⟩ else .error .notFound
          | some (.link target) =>
            if rest = [] ∧ last = false then .ok ⟨.occupied (l ++ [n]), links⟩
            else
              match links with
              | 0 => .error .tooManyLinks
              | links' + 1 =>
                if target.bytes = [] then .error .notFound
                -- what is left of the way comes behind the steps of the link
                else
                  follow t last links' (if target.isAbsolute then [] else l) (target.walk ++ rest)
          -- a file is gone to as well; a further step finds that it is no directory
          | some _ => follow t last links (l ++ [n]) rest
    else .error .notDirectory
termination_by steps => (links, steps.length)

/-- Where a link leads that lies in the directory at a location, and the links left after it. -/
def throughLink (t : Tree) (links : Nat) (l : Location) (target : Path) :
    Except Fault (Location × Nat) :=
  match links with
  | 0 => .error .tooManyLinks
  | links + 1 =>
    if target.bytes = [] then .error .notFound
    else
      match t.follow true links (if target.isAbsolute then [] else l) target.walk with
      | .ok ⟨.occupied there, left⟩ => .ok (there, left)
      | .ok ⟨.vacant _ _, _⟩ => .error .notFound
      | .error e => .error e

/-- The place of a path, seen from the top. -/
def locate (t : Tree) (last : Bool) (p : Path) : Except Fault Arrival :=
  match p.fault? with
  | some e => .error e
  | none => t.follow last linkLimit [] p.walk

/-- The entry that a path leads to when every link is followed: its location, and the links left. -/
def resolve (t : Tree) (p : Path) : Except Fault (Location × Nat) :=
  match t.locate true p with
  | .ok ⟨.occupied l, links⟩ => .ok (l, links)
  | .ok ⟨.vacant _ _, _⟩ => .error .notFound
  | .error e => .error e

/-- The entry that a path leads to when every link is followed. -/
def entryAt (t : Tree) (p : Path) : Except Fault Entry :=
  match t.resolve p with
  | .ok (l, _) =>
    match t.get? l with
    | some e => .ok e
    | none => .error .notFound
  | .error e => .error e

/-- The entry that a path leads to when a link at its end is not followed. -/
def entryAtItself (t : Tree) (p : Path) : Option Entry :=
  match t.locate false p with
  | .ok ⟨.occupied l, _⟩ => t.get? l
  | _ => none

/-- Does the path lead to a directory? -/
def isDirAt (t : Tree) (p : Path) : Bool :=
  match t.entryAt p with
  | .ok .dir => true
  | _ => false

/-- Does the path lead to a file? -/
def isFileAt (t : Tree) (p : Path) : Bool :=
  match t.entryAt p with
  | .ok (.file _ _) => true
  | _ => false

/-- The bytes of the file that a path leads to. -/
def readBytes (t : Tree) (p : Path) : Except Fault Bytes :=
  match t.entryAt p with
  | .ok (.file content _) => .ok content
  | .ok _ => .error .isDirectory
  | .error e => .error e

/-- The text of the file that a path leads to. -/
def readText (t : Tree) (p : Path) : Except Fault String :=
  match t.readBytes p with
  | .ok bytes =>
    match Utf8.decode? bytes with
    | some cs => .ok (String.ofList cs)
    | none => .error .notText
  | .error e => .error e

end Tree

end NativeBuild
