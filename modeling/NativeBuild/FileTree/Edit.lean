import NativeBuild.FileTree.Resolve

/-!
# Changing a file tree

Operations that make, replace and remove what a path leads to. Each is a function to the changed
tree or a fault, and a fault leaves the tree as it was; only `makeDirs`, which makes one directory
after another, may have changed the tree before it fails, and so it answers with a tree in either
case.
-/

namespace NativeBuild

namespace Tree

/-- **Makes the directories along steps** from the directory at a location, so far as they are
missing; `made` says whether one has been made before. What is there already has to be a directory
or a link to one. If it is not, then the fault is that there is an entry of that name wherever the
entry itself was to be made a directory: at the last step, and after a directory that was made.
Elsewhere it is the fault of going on from there. -/
def makeAlong (t : Tree) (links : Nat) (made : Bool) (l : Location) :
    List Path.Step → Tree × Except Fault Unit
  | [] => (t, .ok ())
  | .here :: rest => makeAlong t links made l rest
  | .up :: rest => makeAlong t links made l.dropLast rest
  | .down b :: rest =>
    let inTheWay := fun (e : Fault) =>
      Except.error (if made ∨ rest = [] ∨ e = .notFound then Fault.alreadyExists else e)
    match Name.ofBytes? b with
    | none => (t, .error .nameTooLong)
    | some n =>
      match t.get? (l ++ [n]) with
      | none =>
        if h : t.Admits l n .dir then makeAlong (t.put l n .dir h) links true (l ++ [n]) rest
        else (t, .error .notDirectory)
      | some .dir => makeAlong t links made (l ++ [n]) rest
      | some (.file _ _) => (t, inTheWay .notDirectory)
      | some (.link target) =>
        match t.throughLink links l target with
        | .ok (there, left) =>
          if t.isDir there then makeAlong t left made there rest else (t, inTheWay .notDirectory)
        | .error e => (t, inTheWay e)

/-- Makes a directory and those above it that are missing. -/
def makeDirs (t : Tree) (p : Path) : Tree × Except Fault Unit :=
  match p.fault? with
  | some e => (t, .error e)
  | none => t.makeAlong linkLimit false [] p.steps

/-- The mode of a file that had none before: its owner may write it and everyone read it. -/
def defaultMode : Nat := 0o644

/-- The mode that a file at a path is to have: that of the file it leads to, if there is one. -/
def modeFor (t : Tree) (p : Path) : Nat :=
  match t.entryAt p with
  | .ok (.file _ mode) => mode
  | _ => defaultMode

/-- Makes an empty file at a path that names nothing yet, and tells in which directory and under
which name it lies. -/
def createFile (t : Tree) (p : Path) (mode : Nat) : Except Fault (Tree × Location × Name) :=
  match t.locate false p with
  | .error e => .error e
  | .ok ⟨.occupied _, _⟩ => .error .alreadyExists
  | .ok ⟨.vacant d n, _⟩ =>
    if h : t.Admits d n (.file [] mode) then .ok (t.put d n _ h, d, n) else .error .notDirectory

/-- Gives the file under a name of a directory other bytes and another mode. -/
def refill (t : Tree) (d : Location) (n : Name) (content : Bytes) (mode : Nat) : Tree :=
  if h : t.Admits d n (.file content mode) then t.put d n _ h else t

/-- Where a file lands that is moved to a path: in which directory, and under which name. The
directory has to be there; what is under the name is not looked at. -/
def landing (t : Tree) (p : Path) : Except Fault (Location × Name) :=
  match p.fault? with
  | some e => .error (if e = .zeroByte then .invalid else e)
  | none =>
    match t.follow true linkLimit [] p.steps.dropLast with
    | .error e => .error e
    | .ok ⟨.vacant _ _, _⟩ => .error .notFound
    | .ok ⟨.occupied d, _⟩ =>
      if t.isDir d = false then .error .notDirectory
      else
        match p.steps.getLast? with
        | none | some .here | some .up => .error .busy
        | some (.down b) =>
          match Name.ofBytes? b with
          | none => .error .nameTooLong
          | some n => if p.endsInSlash then .error .notDirectory else .ok (d, n)

/-- Moves the file under a name of a directory to the place of what a path names, **in one step**. A
link is replaced and not followed, and a directory is not replaced. -/
def moveFile (t : Tree) (d : Location) (n : Name) (p : Path) : Except Fault Tree :=
  match t.landing p with
  | .error e => .error e
  | .ok (d', n') =>
    match t.get? (d ++ [n]) with
    | some (.file content mode) =>
      -- it is there already
      if d' ++ [n'] = d ++ [n] then .ok t
      else if h : t.Admits d' n' (.file content mode) then
        .ok ((t.put d' n' _ h).erase (d ++ [n]))
      else .error .isDirectory
    | _ => .error .notFound

/-- Writes the file that a path leads to, through links; makes it if it is missing. -/
def writeFile (t : Tree) (p : Path) (content : Bytes) (mode : Nat) : Except Fault Tree :=
  match t.locate true p with
  | .error e => .error e
  | .ok ⟨.vacant d n, _⟩ =>
    if h : t.Admits d n (.file content mode) then .ok (t.put d n _ h) else .error .notDirectory
  | .ok ⟨.occupied l, _⟩ =>
    match l.getLast? with
    | none => .error .isDirectory
    | some n =>
      if h : t.Admits l.dropLast n (.file content mode) then .ok (t.put l.dropLast n _ h)
      else .error .isDirectory

/-- Makes a link that holds the path `target`. -/
def makeLink (t : Tree) (p target : Path) : Except Fault Tree :=
  match t.locate false p with
  | .error e => .error e
  | .ok ⟨.occupied _, _⟩ => .error .alreadyExists
  | .ok ⟨.vacant d n, _⟩ =>
    if h : t.Admits d n (.link target) then .ok (t.put d n _ h) else .error .notDirectory

/-- Removes what a path names, with everything below it; a link is removed and not followed. -/
def remove (t : Tree) (p : Path) : Except Fault Tree :=
  match t.locate false p with
  | .error e => .error e
  | .ok ⟨.occupied l, _⟩ => .ok (t.erase l)
  | .ok ⟨.vacant _ _, _⟩ => .error .notFound

/-- Every path of the tree, a directory's with a slash at its end, in the order of their bytes. -/
def listing (t : Tree) : List Path :=
  let spelled := t.entries.map fun x =>
    if x.2 = .dir then (⟨x.1.path.bytes ++ [Path.slash]⟩ : Path) else x.1.path
  spelled.mergeSort fun a b => decide (a.bytes ≤ b.bytes)

end Tree

end NativeBuild
