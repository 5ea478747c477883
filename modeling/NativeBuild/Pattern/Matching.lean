import NativeBuild.Pattern.Basic

/-!
# Which texts match

A text *matches* a pattern if the pattern describes some part of it.

The places of a text are before, between and after its characters. In one text a pattern is a
`Move`: it leads from the places where a part may begin to the places where a part that the pattern
describes may end. Sequence is one move after another, choice is either move, and repetition is a
move made again and again. A part never ends before it begins, so that after as many rounds as there
are places nothing new is reached, and fewer will do if a round finds nothing new.

Where a repetition is repeated itself, it is made once from each place, and where that leads is kept
in a `Table`. Otherwise the time that a pattern takes would double with each repetition around
another.
-/

namespace NativeBuild

namespace Pattern

/-! ### Places -/

/-- A **place** in a text: the character before it, and the text after it. -/
structure Place where
  before : Option Char
  after : List Char

/-- The places of a text whose characters come after another. -/
def placesAfter (before : Option Char) : List Char → List Place
  | [] => [⟨before, []⟩]
  | c :: cs => ⟨before, c :: cs⟩ :: placesAfter (some c) cs

/-- The places of a text, in order. -/
def places (text : List Char) : List Place := placesAfter none text

/-- A set of places. Each bit of the number, from the lowest on, stands for one place after another
and says whether it is in the set. -/
abbrev PlaceSet := Nat

/-- The set of the places that satisfy a condition. -/
def placesWhere (holds : Place → Bool) (ps : List Place) : PlaceSet :=
  ps.foldr (fun p s => 2 * s + (holds p).toNat) 0

/-- The places of a set that are not in another. -/
def without (s s' : PlaceSet) : PlaceSet := s ^^^ (s &&& s')

/-- The first place of a set that has one: the lowest bit is the highest of those that the step to
the number below changes. -/
def firstOf (s : PlaceSet) : Nat := (s ^^^ (s - 1)).log2

/-! ### Tables -/

/-- Where a move leads from each place. In a **closed** table, what is reached from a place that is
reached is reached too. -/
structure Table where
  rows : Array PlaceSet
  closed : Bool

namespace Table

/-- The places reached, those that are known and those from a set of at most `n` places. In a closed
table a place adds nothing to the row of a place that leads to it. -/
def ends (t : Table) : Nat → PlaceSet → PlaceSet → PlaceSet
  | 0, _, known => known
  | n + 1, s, known =>
    if s = 0 then known
    else
      let i := firstOf s
      let row := t.rows[i]?.getD 0
      let others := without s (1 <<< i)
      t.ends n (if t.closed then without others row else others) (known ||| row)

/-- The table of a step, in a text of `count` places. -/
def ofStep (count : Nat) (closed : Bool) (step : PlaceSet → PlaceSet) : Table :=
  ⟨(Array.range count).map fun i => step (1 <<< i), closed⟩

/-- The table of a step taken any number of times. No step leads back, so that the rows are filled
from the last place on: each holds its own place, and the rows of those that one step leads to. -/
def closure (count : Nat) (step : PlaceSet → PlaceSet) : Table :=
  (List.range count).foldr
    (fun i t =>
      let row := t.ends count (without (step (1 <<< i)) (1 <<< i)) (1 <<< i)
      { t with rows := t.rows.setIfInBounds i row })
    ⟨Array.replicate count 0, true⟩

end Table

/-! ### Moves -/

/-- What a pattern is in one text. -/
inductive Move where
  /-- From each place of a set it leads so many places on. -/
  | onward (start : PlaceSet) (length : Nat)
  | table (t : Table)
  | repeated (m : Move) (least : Nat) (most : Option Nat)
  | sequence (ms : List Move)
  | choice (ms : List Move)

/-- What is reached by a step taken `n` times. -/
def rounds (step : PlaceSet → PlaceSet) : Nat → PlaceSet → PlaceSet
  | 0, s => s
  | n + 1, s =>
    let s' := step s
    if s' = s then s else rounds step n s'

/-- What is known and what is reached from it by a step taken at most `n` times. The step need only
be taken from what was new in the round before. -/
def spread (step : PlaceSet → PlaceSet) : Nat → PlaceSet → PlaceSet → PlaceSet
  | 0, known, _ => known
  | n + 1, known, new =>
    let new' := without (step new) known
    if new' = 0 then known else spread step n (known ||| new') new'

/-- What is reached by a step taken from `least` to `most` times, in a text of `count` places. -/
def repetition (count : Nat) (step : PlaceSet → PlaceSet) (least : Nat) (most : Option Nat)
    (s : PlaceSet) : PlaceSet :=
  let s := rounds step (min least count) s
  spread step ((most.map (· - least)).getD count |> min count) s s

mutual

/-- The places that a move **leads to from those of a set**, in a text of `count` places. -/
def Move.ends (count : Nat) : Move → PlaceSet → PlaceSet
  | .onward start length, s => (s &&& start) <<< length
  | .table t, s => t.ends count s 0
  | .repeated m least most, s => repetition count (Move.ends count m) least most s
  | .sequence ms, s => Move.endsInOrder count ms s
  | .choice ms, s => Move.endsOfAny count ms s

/-- The places that moves lead to, one after the other. -/
def Move.endsInOrder (count : Nat) : List Move → PlaceSet → PlaceSet
  | [], s => s
  | m :: ms, s => Move.endsInOrder count ms (Move.ends count m s)

/-- The places that one of some moves leads to. -/
def Move.endsOfAny (count : Nat) : List Move → PlaceSet → PlaceSet
  | [], _ => 0
  | m :: ms, s => Move.ends count m s ||| Move.endsOfAny count ms s

end

/-- The table of the repetition of a move. Two repetitions without a limit are one, so that their
table is closed. -/
def Move.tableOf (count : Nat) (m : Move) (least : Nat) (most : Option Nat) : Table :=
  match most with
  | some most => .ofStep count false (repetition count (m.ends count) least (some most))
  | none =>
    let closure := Table.closure count (m.ends count)
    if least = 0 then closure
    else .ofStep count true fun s =>
      closure.ends count (rounds (m.ends count) (min least count) s) 0

mutual

/-- The **move that a pattern is** in a text with the given places. `again` says whether it is made
more than once. -/
def inText (ps : List Place) (again : Bool) : Pattern → Move
  | .empty => .sequence []
  | .literal cs => .onward (placesWhere (fun p => cs.isPrefixOf p.after) ps) cs.length
  | .set s => .onward (placesWhere (fun p => p.after.head?.any s.contains) ps) 1
  | .look l => .onward (placesWhere (fun p => l.holds p.before p.after.head?) ps) 0
  | .repeated p least most _ =>
    let once := most.any (· ≤ 1)
    let m := inText ps (again || !once) p
    if again && !once then .table (m.tableOf ps.length least most) else .repeated m least most
  | .group _ p => inText ps again p
  | .sequence qs => .sequence (allInText ps again qs)
  | .choice qs => .choice (allInText ps again qs)

/-- The moves that patterns are. -/
def allInText (ps : List Place) (again : Bool) : List Pattern → List Move
  | [] => []
  | q :: qs => inText ps again q :: allInText ps again qs

end

/-! ### Matching -/

/-- **Does a text match**: does the pattern describe some part of it? -/
def isMatch (p : Pattern) (text : String) : Bool :=
  let ps := places text.toList
  (inText ps false p).ends ps.length (placesWhere (fun _ => true) ps) != 0

end Pattern

end NativeBuild
