import NativeBuild.Text.Runs
import NativeBuild.Text.Utf8

/-!
# Paths

A path is a string of bytes; `/` separates its components. It keeps the spelling it was given
(`./a//b` stays `./a//b`), because messages show it, and only the operations below look at its
components:

* `join` puts one path after another, with one `/` between them, unless the second is absolute;
* `parent?` drops the last component together with what says nothing after it and before it: a `/`
  too many or a `.` between slashes;
* `steps` lists the components in the order in which they are followed.
-/

namespace NativeBuild

/-- A path, as it is spelled. -/
structure Path where
  bytes : Bytes
  deriving DecidableEq, Repr, Inhabited

namespace Path

/-- The byte that separates components. -/
def slash : UInt8 := 0x2F

/-- The byte of which `.` and `..` consist. -/
def dot : UInt8 := 0x2E

/-- A path spelled by a text. -/
def ofString (s : String) : Path := ⟨Utf8.encode s.toList⟩

/-- The path as messages show it: what is no text in it is replaced. -/
def display (p : Path) : String := String.ofList (Utf8.decodeLossy p.bytes)

/-- The text that spells the path, if one does. -/
def text? (p : Path) : Option String := (Utf8.decode? p.bytes).map String.ofList

/-- Does the path start at the top of the tree, wherever it is used? -/
def isAbsolute (p : Path) : Bool := p.bytes.head? == some slash

/-- `rest`, taken from `base`. -/
def join (base rest : Path) : Path :=
  if rest.isAbsolute then rest
  else if base.bytes = [] ∨ base.bytes.getLast? = some slash then ⟨base.bytes ++ rest.bytes⟩
  else ⟨base.bytes ++ slash :: rest.bytes⟩

/-! ### The path above -/

/-- The beginning of a path that no component stands for (`/`, or a `.` in front), and the rest. -/
def splitHead : Bytes → Bytes × Bytes
  | [] => ([], [])
  | a :: r =>
    if a = slash then ([slash], r)
    else if a = dot ∧ (r = [] ∨ r.head? = some slash) then ([dot], r)
    else ([], a :: r)

/-- The reversed bytes of a path, without the slashes and lone dots at its end. -/
def dropIdle : Bytes → Bytes
  | [] => []
  | a :: r =>
    if a = slash then dropIdle r
    else if a = dot then
      match r with
      | [] => []
      | b :: r' => if b = slash then dropIdle r' else a :: b :: r'
    else a :: r

/-- The path without its last component; there is none above `/` and above the empty path. -/
def parent? (p : Path) : Option Path :=
  let (head, body) := splitHead p.bytes
  match dropIdle body.reverse with
  | [] => if head = [dot] then some ⟨[]⟩ else none
  | last =>
    -- seen from the end: the last component, the slash in front of it, and what is above
    let above := (last.dropWhile (· != slash)).drop 1
    some ⟨head ++ (dropIdle above).reverse⟩

/-! ### The way along a path -/

/-- One step along a path. -/
inductive Step where
  /-- Stay in the directory. -/
  | here
  /-- Go to the directory above. -/
  | up
  /-- Go to the entry of that name. -/
  | down (name : Bytes)
  deriving DecidableEq, Repr

/-- The step that a component stands for. -/
def Step.ofComponent (c : Bytes) : Step :=
  if c = [dot] then .here else if c = [dot, dot] then .up else .down c

/-- The components of a path: what stands between its slashes. -/
def components (p : Path) : List Bytes := Text.runs (· == slash) p.bytes

/-- The steps along a path, without a last slash. -/
def steps (p : Path) : List Step := p.components.map Step.ofComponent

/-- Does the path end in a slash, and so ask for a directory? -/
def endsInSlash (p : Path) : Bool := p.bytes.getLast? == some slash

end Path

end NativeBuild
