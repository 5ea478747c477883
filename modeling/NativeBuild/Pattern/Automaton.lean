import NativeBuild.Pattern.Form
import NativeBuild.Text.Utf8Range
import Std.Data.HashMap

/-!
# How large the automata of a pattern are

A pattern is refused if an automaton that recognises what it describes would take too much memory.
There are two: the *forward* automaton reads the bytes of a text from the first on and marks where
groups begin and end; the *backward* automaton reads them from the last on and marks nothing.
Neither is built. They are drawn, that is to say their states are counted and the bytes that the
lists of edges take, in the order in which the states get their numbers (`Draft.pattern?`).

A state takes `stateSize` bytes. Where it goes to one state only, nothing is added; a *fork* keeps a
list of the states it goes to, and a *switch* a list of ranges of bytes and where they lead. A part
that is drawn ends in one state, which is linked to what follows, and if that state is a fork the
link makes its list longer.

A repetition is drawn as often as it is counted, a set of characters by its rows of byte ranges, and
states of a set that would be equal are drawn once, as far as a table of limited size (`Slots`)
remembers them.
-/

namespace NativeBuild.Pattern

/-! ### Drafts -/

/-- The bytes that a state takes. -/
def stateSize : Nat := 32

/-- The bytes that a fork takes for each state it goes to. -/
def linkSize : Nat := 4

/-- The bytes that a switch takes for each range. -/
def edgeSize : Nat := 8

/-- The bytes that an automaton may take. -/
def automatonLimit : Nat := 10485760

/-- How far an automaton is drawn. -/
structure Draft where
  /-- The number of states, which is the number of the next state. -/
  states : Nat
  /-- The bytes that lists take. -/
  listed : Nat
  /-- Is the state a fork that the part drawn last ends in? -/
  fork : Bool

namespace Draft

/-- Nothing is drawn. -/
def blank : Draft := ⟨0, 0, false⟩

/-- The bytes that a link from the end takes. -/
def link (d : Draft) : Nat := if d.fork then linkSize else 0

/-- Draws states that take bytes for lists, and says whether the part that they complete ends in a
fork; unless the automaton gets too large. -/
def add? (d : Draft) (states listed : Nat) (fork : Bool) : Option Draft :=
  let d' : Draft := ⟨d.states + states, d.listed + listed, fork⟩
  if d'.states * stateSize + d'.listed ≤ automatonLimit then some d' else none

/-- Links the end to what is drawn next. -/
def linked? (d : Draft) : Option Draft := d.add? 0 d.link false

/-! ### Sets -/

/-- A table that remembers states by what they do. It has a number of slots, each of which remembers
one state. -/
structure Slots (κ : Type) where
  count : Nat
  entries : Std.HashMap Nat (κ × Nat)

namespace Slots

variable {κ : Type} [DecidableEq κ]

/-- The slot of a key that the numbers spell: a hash of 64 bits, by the method of Fowler, Noll and
Vo. -/
def slotOf (s : Slots κ) (spelling : List Nat) : Nat :=
  (spelling.foldl (fun h n => (h ^^^ UInt64.ofNat n) * 1099511628211)
    (14695981039346656037 : UInt64)).toNat % s.count

/-- The state that the table remembers for a key, or a new one, which it remembers from then on. -/
def getOrDraw? (s : Slots κ) (spelling : List Nat) (key : κ) (draw : Option Draft) (d : Draft) :
    Option (Nat × Slots κ × Draft) :=
  let slot := s.slotOf spelling
  match s.entries[slot]? with
  | some (key', state) => if key = key' then some (state, s, d) else new slot
  | none => new slot
where
  /-- A new state, remembered in a slot. -/
  new (slot : Nat) : Option (Nat × Slots κ × Draft) :=
    draw.map fun d' => (d.states, { s with entries := s.entries.insert slot (key, d.states) }, d')

end Slots

/-- An edge of a switch: a range of bytes, and the state it leads to. -/
abbrev Edge := (UInt8 × UInt8) × Nat

/-- The numbers that spell an edge. -/
def spellEdge (e : Edge) : List Nat := [e.1.1.toNat, e.1.2.toNat, e.2]

/-- Rows that are not empty, in groups of neighbours with the same first range. -/
def byFirst (rows : List Utf8.Row) : List (List Utf8.Row) :=
  rows.splitBy fun a b => a.head? = b.head?

/-- Draws the switches that rows make up from the state where they begin to `target`: one for the
first ranges, after those for the rest of the rows. Rows have at most so many ranges. Gives the
number of the state where the rows begin. -/
def switches? (target : Nat) :
    Nat → List Utf8.Row → Slots (List Edge) → Draft → Option (Nat × Slots (List Edge) × Draft)
  | 0, _, slots, d => some (target, slots, d)
  | length + 1, rows, slots, d =>
    if rows.all List.isEmpty then some (target, slots, d)
    else do
      let (edges, slots, d) ← (byFirst rows).foldlM (fun (edges, slots, d) group => do
        let (next, slots, d) ← switches? target length (group.map List.tail) slots d
        return (edges ++ (group.head?.bind List.head?).toList.map (·, next), slots, d))
        ([], slots, d)
      slots.getOrDraw? (edges.flatMap spellEdge) edges (d.add? 1 (edges.length * edgeSize) false) d

/-- Draws a row from its first range on, each range before the one that is drawn already, and links
a fork to the last of them. `start` is the state that the first range leads to. -/
def rowBackward? (row : Utf8.Row) (start : Nat) (slots : Slots (Nat × UInt8 × UInt8)) (d : Draft) :
    Option (Slots (Nat × UInt8 × UInt8) × Draft) := do
  let (_, slots, d) ← row.foldlM (fun (state, slots, d) range =>
    slots.getOrDraw? [state, range.1.toNat, range.2.toNat] (state, range) (d.add? 1 0 false) d)
      (start, slots, d)
  return (slots, ← d.add? 0 linkSize false)

/-- Draws a set of characters. -/
def set? (forward : Bool) (s : CharSet) (d : Draft) : Option Draft :=
  if s.isAscii then d.add? 2 (s.length * edgeSize) false
  else
    let rows := s.flatMap Utf8.rows
    if forward then do
      let target := d.states
      let (_, _, d) ← switches? target 4 rows ⟨10000, ∅⟩ (← d.add? 1 0 false)
      return d
    else do
      let target := d.states + 1
      let (_, d) ← rows.foldlM (fun (slots, d) row => rowBackward? row target slots d)
        ((⟨1000, ∅⟩, ← d.add? 2 0 false) : Slots (Nat × UInt8 × UInt8) × Draft)
      return d

/-! ### Words -/

/-- The bytes of a text, in the order in which they are read. -/
def bytes (forward : Bool) (cs : List Char) : Bytes :=
  if forward then Utf8.encode cs else (Utf8.encode cs).reverse

/-- How often a place where some of the words end breaks the list of words. At the beginning the
first time counts alone. -/
def endsAmong (words : List Bytes) : Nat :=
  let rest := words.dropWhile List.isEmpty
  (if words.head? = some [] then 1 else 0) + (rest.filter List.isEmpty).length

/-- Draws the tree of words that have at most so many bytes. A state of the tree is a fork to the
words before each that ends there and after the last one; between them, words with the same first
byte share an edge. -/
def tree? : Nat → List Bytes → Draft → Option Draft
  | 0, _, d => some d
  | length + 1, words, d =>
    if words.all List.isEmpty then some d
    else do
      let runs := (words.splitOnP List.isEmpty).filter (· ≠ [])
      let d ← runs.foldlM (fun d run => do
        let firsts := (run.filterMap List.head?).eraseDups
        let d ← firsts.foldlM
            (fun d b => tree? length ((run.filter (·.head? = some b)).map List.tail) d) d
        d.add? 1 (if firsts.length < 2 then 0 else firsts.length * edgeSize) false) d
      d.add? 1 ((runs.length + endsAmong words) * linkSize) false

/-- The words that some patterns are, if they all are. -/
def words? (forward : Bool) (ps : List Pattern) : Option (List Bytes) :=
  ps.mapM fun
    | .literal cs => some (bytes forward cs)
    | _ => none

/-! ### Patterns -/

/-- Draws `n` more copies of a part, each linked to the one before. -/
def again? (draw : Draft → Option Draft) : Nat → Draft → Option Draft
  | 0, d => some d
  | n + 1, d =>
    match d.linked?.bind draw with
    | some d => again? draw n d
    | none => none

/-- Draws `n` copies of a part. -/
def copies? (draw : Draft → Option Draft) : Nat → Draft → Option Draft
  | 0, d => d.add? 1 0 false
  | n + 1, d => (draw d).bind (again? draw n)

/-- Draws a part `n` times, each time with a fork before it that may leave the part out and is
linked to the part before. -/
def optional? (draw : Draft → Option Draft) : Nat → Draft → Option Draft
  | 0, d => some d
  | n + 1, d =>
    match (d.add? 1 (d.link + 2 * linkSize) false).bind draw with
    | some d => optional? draw n d
    | none => none

/-- Draws the repetition of a part. `least` and `most` are its counts, and `filled` says whether the
part cannot be empty. -/
def repeated? (draw : Draft → Option Draft) (filled : Bool) (least : Nat) (most : Option Nat)
    (d : Draft) :
    Option Draft :=
  match least, most with
  | 0, some 1 => do
    let d ← draw (← d.add? 1 (2 * linkSize) false)
    d.add? 1 d.link false
  | 0, none =>
    if filled then do
      let d ← draw (← d.add? 1 linkSize false)
      d.add? 0 d.link true
    else do
      let d ← draw d
      d.add? 3 (d.link + 4 * linkSize) false
  | least, none => do
    let d ← copies? draw least d
    d.add? 1 (d.link + linkSize) true
  | least, some most =>
    if least = most then copies? draw least d
    else do
      let d ← copies? draw least d
      let d ← optional? draw (most - least) (← d.add? 1 0 d.fork)
      d.linked?

mutual

/-- Draws a **pattern**. -/
def pattern? (forward : Bool) : Pattern → Draft → Option Draft
  | .empty, d => d.add? 1 0 false
  | .literal cs, d => d.add? (bytes forward cs).length 0 false
  | .set s, d => set? forward s d
  | .look _, d => d.add? 1 0 false
  | .repeated p least most _,
    d => repeated? (pattern? forward p) (leastLength p |>.any (0 < ·)) least most d
  | .group _ p, d =>
    if forward then do
      let d ← pattern? forward p (← d.add? 1 0 false)
      d.add? 1 d.link false
    else pattern? forward p d
  | .sequence ps, d => inOrder? forward ps d
  | .choice ps, d =>
    match words? forward ps with
    | some words => (d.add? 1 0 false).bind (tree? ((words.map List.length).foldl max 0) words)
    | none => branches? forward 0 ps d

/-- Draws patterns in the order in which what they describe is read, each linked to the one
before. -/
def inOrder? (forward : Bool) : List Pattern → Draft → Option Draft
  | [], d => d.add? 1 0 false
  | [p], d => pattern? forward p d
  | p :: ps, d =>
    if forward then do inOrder? forward ps (← (← pattern? forward p d).linked?)
    else do pattern? forward p (← (← inOrder? forward ps d).linked?)

/-- Draws the branches of a choice, before which so many are drawn. A fork goes to all, and all to
one state; these two are drawn after the second branch. -/
def branches? (forward : Bool) : Nat → List Pattern → Draft → Option Draft
  | _, [], d => some d
  | before, p :: ps, d => do
    let d ← pattern? forward p d
    let d ← d.add? (if before = 1 then 2 else 0) (linkSize + d.link) false
    branches? forward (before + 1) ps d

end

/-- Draws the whole automaton. Unless what is described begins or ends with the text, a fork at the
beginning leaves out what is before it. -/
def whole? (forward : Bool) (p : Pattern) : Option Draft := do
  let fixed := if forward then beginsWith .textStart p else endsWith .textEnd p
  let d ← if fixed then blank.add? 1 0 false else blank.add? 3 (edgeSize + 2 * linkSize) false
  let d ← pattern? forward (if forward then .group 0 p else p) d
  d.add? 1 d.link false

end Draft

/-- Are the two **automata of a pattern small enough**? -/
def hasSmallAutomata (p : Pattern) : Bool :=
  (Draft.whole? true p).isSome && (Draft.whole? false p).isSome

end NativeBuild.Pattern
