import NativeBuild.Pattern.Escape

/-!
# Sets in brackets

A set in brackets lists characters, ranges and other sets, and may be combined from several such
lists: `&&` takes what is in both, `--` what is in the first alone, `~~` what is in one alone. The
operations bind equally and to the left.

Every reader also says how deep its syntax tree is, since patterns that are nested too deep are
refused. A list of at least two items is a node of the tree, as is an operation and a pair of
brackets.
-/

namespace NativeBuild.Pattern

/-- The name of a set between `[:` and `:]`, after the first bracket. -/
def asciiClass? (m : Mode) (cs : List Char) : Option (CharSet × List Char) :=
  match cs with
  | ':' :: r =>
    let (neg, r) := match r with
      | '^' :: r => (true, r)
      | r => (false, r)
    match cut? [':'] r with
    | some (name, ']' :: rest) =>
      (CharSet.ofAsciiName? (String.ofList name)).map fun s =>
        (CharSet.complIf neg (m.fold s), rest)
    | _ => none
  | _ => none

/-! ### Items -/

/-- A single item in brackets. -/
def setItem? (m : Mode) : List Char → Option (Primitive × List Char)
  | [] => none
  | '\\' :: r => escape? m r
  | c :: r => some (.char c false, r)

/-- The set of an item in brackets. -/
def Primitive.inSet? (m : Mode) : Primitive → Option CharSet
  | .char c _ => m.admit? (.single c)
  | .set s => m.admit? s
  | .look _ => none

/-- The character of an item in brackets that may end a range. -/
def Primitive.bound? (m : Mode) : Primitive → Option Char
  | .char c _ => if m.unicode || c.toNat < 0x80 then some c else none
  | _ => none

/-- An item, or a range of characters from one item to another. -/
def setRange? (m : Mode) (cs : List Char) : Option (CharSet × List Char) := do
  let (first, r) ← setItem? m cs
  match m.skip r with
  | [] => none
  | '-' :: r' =>
    if m.glance r' = some ']' ∨ m.glance r' = some '-' then return (← first.inSet? m, '-' :: r')
    else do
      let (last, rest) ← setItem? m (m.skip r')
      let lo ← first.bound? m
      let hi ← last.bound? m
      if lo ≤ hi then return (.range lo hi, rest) else none
  | rest => return (← first.inSet? m, rest)

/-! ### Combinations -/

/-- How two parts of a set in brackets are combined. -/
inductive SetOp where
  | inter
  | diff
  | symmDiff

/-- The combination of two sets. -/
def SetOp.apply : SetOp → CharSet → CharSet → CharSet
  | inter, a, b => Unicode.Ranges.inter a b
  | diff, a, b => Unicode.Ranges.diff a b
  | symmDiff, a, b => a.symmDiff b

/-- The combination that a doubled character asks for. -/
def setOp? : Char → Option SetOp
  | '&' => some .inter
  | '-' => some .diff
  | '~' => some .symmDiff
  | _ => none

/-- A part of a set in brackets that has been read: what it is to be combined with, and its
items. -/
structure SetPart where
  /-- The set before the part, the operation, and how deep the set is. -/
  left : Option (CharSet × SetOp × Nat)
  items : List CharSet
  /-- How deep the deepest item is. -/
  depth : Nat

namespace SetPart

/-- A part without items. -/
def start (left : Option (CharSet × SetOp × Nat)) : SetPart := ⟨left, [], 0⟩

/-- A part with one more item. -/
def add (p : SetPart) (s : CharSet) (depth : Nat) : SetPart :=
  ⟨p.left, s :: p.items, max p.depth depth⟩

/-- The set that a part makes with what stands before it, and how deep it is. -/
def close (p : SetPart) (m : Mode) : CharSet × Nat :=
  let items := Unicode.Ranges.ofList p.items.flatten
  let depth := if p.items.length < 2 then p.depth else p.depth + 1
  match p.left with
  | none => (items, depth)
  | some (a, op, d) => (op.apply (m.fold a) (m.fold items), max d depth + 1)

end SetPart

/-- The items of a set in brackets, and the last bracket. `inner` reads a set in brackets after its
first one. -/
def setItems? (m : Mode) (inner : List Char → Option (CharSet × Nat × List Char)) :
    Nat → SetPart → List Char → Option (CharSet × Nat × List Char)
  | 0, _, _ => none
  | bound + 1, part, cs =>
    let single := fun (cs : List Char) =>
      match setRange? m cs with
      | some (s, rest) => setItems? m inner bound (part.add s 0) rest
      | none => none
    match m.skip cs with
    | [] => none
    | ']' :: r => some ((part.close m).1, (part.close m).2, r)
    | '[' :: r =>
      match asciiClass? m r with
      | some (s, rest) =>
        if m.unicode || s.isAscii then setItems? m inner bound (part.add s 0) rest else none
      | none =>
        match inner r with
        | some (s, depth, rest) => setItems? m inner bound (part.add s depth) rest
        | none => none
    | c :: d :: r =>
      match if c = d then setOp? c else none with
      | some op =>
        let (left, depth) := part.close m
        setItems? m inner bound (.start (some (left, op, depth))) r
      | none => single (c :: d :: r)
    | cs => single cs

/-- Dashes at the beginning of a set in brackets, which stand for themselves, and what is left after
them. -/
def leadingDashes (m : Mode) : Nat → SetPart → List Char → SetPart × List Char
  | bound + 1, part, '-' :: r => leadingDashes m bound (part.add (.single '-') 0) (m.skip r)
  | _, part, cs => (part, cs)

/-- A set in brackets, after the first one: the set, how deep it is, and what is left. `nest` is how
deep brackets may still be nested. A bracket that closes stands for itself if it comes first. -/
def bracket? (m : Mode) : Nat → List Char → Option (CharSet × Nat × List Char)
  | 0, _ => none
  | nest + 1, cs =>
    let (neg, cs) := match m.skip cs with
      | '^' :: r => (true, m.skip r)
      | cs => (false, cs)
    let (part, cs) := leadingDashes m cs.length (.start none) cs
    let (part, cs) := match part.items, cs with
      | [], ']' :: r => (part.add (.single ']') 0, r)
      | _, cs => (part, cs)
    (setItems? m (bracket? m nest) (cs.length + 1) part cs).bind fun x =>
      (m.admit? (CharSet.complIf neg (m.fold x.1))).map fun s => (s, x.2.1 + 1, x.2.2)

end NativeBuild.Pattern
