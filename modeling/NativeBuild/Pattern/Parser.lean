import NativeBuild.Pattern.Automaton
import NativeBuild.Pattern.Bracket
import NativeBuild.Pattern.Group
import NativeBuild.Pattern.Words

/-!
# Reading patterns

The notation of patterns. Most characters stand for themselves. `.` is any character but a line
feed, `[…]` a set, `^` and `$` are conditions, `|` is a choice, `(…)` a group; `?`, `*`, `+` and
`{n,m}` repeat what stands before them. A backslash makes a mark stand for itself, or a letter for a
set, a condition or a control. `(?i)` and its like change how the rest of the group is read.

A reader takes what is left of the text and gives back what it read and what is left after it.
`choices?` reads what is in a group; it steps into itself once for each group that is open, at most
`nestLimit` times, and within a group goes from item to item. With each part it keeps how deep the
syntax tree of the part is, as a tree that is too deep is refused: a group, a repetition, a sequence
of at least two items and a choice are nodes of the tree.

What a text denotes is refused if it is no pattern, or if it is no list of words and one of its
automata is too large (`Pattern.ofString`).
-/

namespace NativeBuild.Pattern

/-! ### Parts -/

/-- A **part** that has been read: its pattern, and how deep its syntax tree is. -/
structure Part where
  pattern : Pattern
  depth : Nat

namespace Part

/-- The depth of the deepest part. -/
def depthOf (ps : List Part) : Nat := ps.foldl (fun d p => max d p.depth) 0

/-- The part that items make up in sequence. The last item comes first. -/
def ofItems : List Part → Part
  | [] => ⟨.empty, 0⟩
  | [p] => p
  | ps => ⟨ofSequence (ps.reverse.map pattern), depthOf ps + 1⟩

/-- The part that branches make up as a choice. The last branch comes first. -/
def ofBranches : List Part → Part
  | [p] => p
  | ps => ⟨ofChoice (ps.reverse.map pattern), depthOf ps + 1⟩

/-- A part in parentheses, which may have a number. -/
def inGroup (p : Part) : Option Nat → Part
  | some n => ⟨.group n p.pattern, p.depth + 1⟩
  | none => ⟨p.pattern, p.depth + 1⟩

/-- A part repeated. -/
def times (p : Part) (least : Nat) (most : Option Nat) (few : Bool) : Part :=
  ⟨ofRepeated p.pattern least most few, p.depth + 1⟩

end Part

/-! ### Single items -/

/-- The pattern of a single item. -/
def Primitive.pattern? (m : Mode) : Primitive → Option Pattern
  | .char c byte =>
    if byte && !m.unicode && c.toNat ≥ 0x80 then none else some (ofSet (m.charSet c))
  | .set s => (m.admit? s).map ofSet
  | .look l => some (.look l)

/-- A single item that is no group. -/
def item? (m : Mode) : List Char → Option (Part × List Char)
  | [] => none
  | '[' :: r => (bracket? m nestLimit r).map fun x => (⟨ofSet x.1, x.2.1⟩, x.2.2)
  | '\\' :: r => (escape? m r).bind fun x => (x.1.pattern? m).map fun p => (⟨p, 0⟩, x.2)
  | '.' :: r => m.dot?.map fun s => (⟨ofSet s, 0⟩, r)
  | '^' :: r => some (⟨.look (if m.multiline then .lineStart m.crlf else .textStart), 0⟩, r)
  | '$' :: r => some (⟨.look (if m.multiline then .lineEnd m.crlf else .textEnd), 0⟩, r)
  | c :: r => some (⟨ofSet (m.charSet c), 0⟩, r)

/-! ### Repetition -/

/-- Counts lie below this number: they have 32 bits. -/
def countLimit : Nat := 4294967296

/-- A count, with blanks around it. -/
def decimal? (m : Mode) (cs : List Char) : Option (Nat × List Char) :=
  match m.span Char.isDigit (cs.dropWhile Text.isBlank) with
  | ([], _) => none
  | (ds, rest) =>
    let n := ds.foldl (fun n d => n * 10 + (d.toNat - 48)) 0
    if n < countLimit then some (n, rest.dropWhile Text.isBlank) else none

/-- The counts in braces, after the first brace. -/
def counts? (m : Mode) (cs : List Char) : Option ((Nat × Option Nat) × List Char) := do
  let (least, r) ← decimal? m (m.skip cs)
  match m.skip r with
  | '\x7d' :: rest => return ((least, some least), rest)
  | ',' :: r =>
    match m.skip r with
    | '\x7d' :: rest => return ((least, none), rest)
    | r => do
      let (most, r) ← decimal? m r
      match m.skip r with
      | '\x7d' :: rest => if least ≤ most then return ((least, some most), rest) else none
      | _ => none
  | _ => none

/-- A question mark after a repetition swaps what is preferred, few rounds or many. -/
def preference (m : Mode) : List Char → Bool × List Char
  | '?' :: r => (!m.few, r)
  | r => (m.few, r)

/-- A part with the repetitions that follow it. -/
def repeated? (m : Mode) : Nat → Part → List Char → Option (Part × List Char)
  | 0, _, _ => none
  | bound + 1, p, cs =>
    let again := fun (least : Nat) (most : Option Nat) (r : List Char) =>
      let (few, r) := preference m r
      repeated? m bound (p.times least most few) r
    match m.skip cs with
    | '?' :: r => again 0 (some 1) r
    | '*' :: r => again 0 none r
    | '+' :: r => again 1 none r
    | '\x7b' :: r =>
      match counts? m r with
      | some ((least, most), r) => again least most (m.skip r)
      | none => none
    | rest => some (p, rest)

/-! ### Groups -/

/-- The items of a group and its branches, up to the parenthesis that closes it. `inner` reads what
is in a group in it; `branches` and `items` are what has been read, the last first. Letters that
change the mode are an item, but one that cannot be repeated. -/
def branches? (inner : State → List Char → Option (Part × State × List Char)) :
    Nat → State → List Part → List Part → List Char → Option (Part × State × List Char)
  | 0, _, _, _, _ => none
  | bound + 1, s, branches, items, cs =>
    match s.mode.skip cs with
    | [] => some (Part.ofBranches (Part.ofItems items :: branches), s, [])
    | ')' :: r => some (Part.ofBranches (Part.ofItems items :: branches), s, ')' :: r)
    | '|' :: r => branches? inner bound s (Part.ofItems items :: branches) [] r
    | '?' :: _ | '*' :: _ | '+' :: _ | '\x7b' :: _ => none
    | '(' :: r =>
      match s.opening? r with
      | none => none
      | some (.settings m, r) =>
        branches? inner bound { s with mode := m } branches (⟨.empty, 0⟩ :: items) r
      | some (.group number opened, r) =>
        match inner opened r with
        | some (p, closed, ')' :: r) =>
          match repeated? s.mode bound (p.inGroup number) r with
          | some (p, r) =>
            branches? inner bound { closed with mode := s.mode } branches (p :: items) r
          | none => none
        | _ => none
    | cs =>
      match (item? s.mode cs).bind fun x => repeated? s.mode bound x.1 x.2 with
      | some (p, r) => branches? inner bound s branches (p :: items) r
      | none => none

/-- What is **in a group**, up to the parenthesis that closes it, if at most `nest` groups are
nested there, this one among them. -/
def choices? : Nat → State → List Char → Option (Part × State × List Char)
  | 0, _, _ => none
  | nest + 1, s, cs => branches? (choices? nest) (cs.length + 1) s [] [] cs

/-! ### Patterns -/

/-- Why a text gives no pattern. -/
inductive Refusal where
  /-- It denotes none. -/
  | malformed
  /-- The pattern that it denotes takes too much to match. -/
  | tooLarge
  deriving DecidableEq, Repr

/-- The **pattern that a text denotes**, if it denotes one that is not too large. -/
def ofString (text : String) : Except Refusal Pattern :=
  match choices? (nestLimit + 1) .initial text.toList with
  | some (p, _, []) =>
    if p.depth ≤ nestLimit then
      if p.pattern.isWordList || p.pattern.hasSmallAutomata then .ok p.pattern else .error .tooLarge
    else .error .malformed
  | _ => .error .malformed

end NativeBuild.Pattern
