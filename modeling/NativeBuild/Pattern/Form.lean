import NativeBuild.Pattern.Basic

/-!
# Patterns in normal form

Different texts denote patterns of the same shape: `[a]` is `a`, a sequence in a sequence is one
sequence, and what can only be empty is not repeated. The functions here build patterns and bring
them into that shape, and each of them describes the same texts as what it is built from. How large
the automata of a pattern are is counted on this form.
-/

namespace NativeBuild.Pattern

open Unicode (Ranges)

/-! ### Lengths and conditions at the ends -/

mutual

/-- The length of the shortest texts described, unless some branch describes none. -/
def leastLength : Pattern → Option Nat
  | empty => some 0
  | literal cs => some cs.length
  | set s => if s.isEmpty then none else some 1
  | look _ => some 0
  | repeated p least _ _ => (leastLength p).map (· * least)
  | group _ p => leastLength p
  | sequence ps => leastLengthInOrder ps
  | choice ps => leastLengthOfAny ps

/-- The sum of the least lengths. -/
def leastLengthInOrder : List Pattern → Option Nat
  | [] => some 0
  | p :: ps => do return (← leastLength p) + (← leastLengthInOrder ps)

/-- The smallest of the least lengths. -/
def leastLengthOfAny : List Pattern → Option Nat
  | [] => none
  | [p] => leastLength p
  | p :: ps => do return min (← leastLength p) (← leastLengthOfAny ps)

end

mutual

/-- Are all texts described empty? -/
def isBlank : Pattern → Bool
  | empty | look _ => true
  | literal cs => cs.isEmpty
  | set _ => false
  | repeated p _ most _ => isBlank p && most.isSome
  | group _ p => isBlank p
  | sequence ps | choice ps => areBlank ps

/-- Are all texts empty that any of some patterns describes? -/
def areBlank : List Pattern → Bool
  | [] => true
  | p :: ps => isBlank p && areBlank ps

end

mutual

/-- Does a condition hold at the beginning of every part described, so far as the shape shows it? -/
def beginsWith (l : Look) : Pattern → Bool
  | look l' => l = l'
  | empty | literal _ | set _ => false
  | repeated p least _ _ => least > 0 && beginsWith l p
  | group _ p => beginsWith l p
  | sequence ps => beginsInOrder l ps
  | choice ps => beginAll l ps

/-- As `beginsWith`, of a sequence: a later pattern counts if all before it are blank. -/
def beginsInOrder (l : Look) : List Pattern → Bool
  | [] => false
  | p :: ps => beginsWith l p || (isBlank p && beginsInOrder l ps)

/-- As `beginsWith`, of a choice. -/
def beginAll (l : Look) : List Pattern → Bool
  | [] => true
  | p :: ps => beginsWith l p && beginAll l ps

end

mutual

/-- Does a condition hold at the end of every part described, so far as the shape shows it? -/
def endsWith (l : Look) : Pattern → Bool
  | look l' => l = l'
  | empty | literal _ | set _ => false
  | repeated p least _ _ => least > 0 && endsWith l p
  | group _ p => endsWith l p
  | sequence ps => endsInOrder l ps
  | choice ps => endAll l ps

/-- As `endsWith`, of a sequence: an earlier pattern counts if all after it are blank. -/
def endsInOrder (l : Look) : List Pattern → Bool
  | [] => false
  | p :: ps => endsInOrder l ps || (areBlank ps && endsWith l p)

/-- As `endsWith`, of a choice. -/
def endAll (l : Look) : List Pattern → Bool
  | [] => true
  | p :: ps => endsWith l p && endAll l ps

end

/-! ### Sameness -/

mutual

/-- Are two patterns the same? -/
def same : Pattern → Pattern → Bool
  | empty, empty => true
  | literal a, literal b => a = b
  | set a, set b => a = b
  | look a, look b => a = b
  | repeated p least most few, repeated q least' most' few' =>
    least = least' && most = most' && few == few' && same p q
  | group n p, group m q => n = m && same p q
  | sequence ps, sequence qs => sameAll ps qs
  | choice ps, choice qs => sameAll ps qs
  | _, _ => false

/-- Are two lists of patterns the same? -/
def sameAll : List Pattern → List Pattern → Bool
  | [], [] => true
  | p :: ps, q :: qs => same p q && sameAll ps qs
  | _, _ => false

end

/-! ### Building -/

/-- A character of a set. A set of one character is that character. -/
def ofSet (s : CharSet) : Pattern :=
  match CharSet.only? s with
  | some c => literal [c]
  | none => set s

/-- The repetition of a pattern. What is always empty is repeated once at most, no time leaves the
empty text, and once is the pattern itself. -/
def ofRepeated (p : Pattern) (least : Nat) (most : Option Nat) (few : Bool) : Pattern :=
  let (least, most) :=
    if isBlank p then (min least 1, some (min (most.getD 1) 1)) else (least, most)
  if most = some 0 then empty
  else if least = 1 ∧ most = some 1 then p
  else repeated p least most few

/-- The patterns that a pattern is a sequence of. -/
def inOrder : Pattern → List Pattern
  | empty => []
  | sequence ps => ps
  | p => [p]

/-- Puts a pattern before others. Neighbouring texts are one text. -/
def prepend (p : Pattern) (ps : List Pattern) : List Pattern :=
  match p, ps with
  | literal a, literal b :: rest => literal (a ++ b) :: rest
  | p, ps => p :: ps

/-- The sequence of patterns. -/
def ofSequence (ps : List Pattern) : Pattern :=
  match (ps.flatMap inOrder).foldr prepend [] with
  | [] => empty
  | [p] => p
  | qs => sequence qs

/-- The patterns that a pattern is a choice of. -/
def branches : Pattern → List Pattern
  | choice ps => ps
  | p => [p]

/-- The character that is all a pattern describes. -/
def onlyChar? : Pattern → Option Char
  | literal [c] => some c
  | _ => none

/-- The set whose characters are all that a pattern describes. -/
def onlySet? : Pattern → Option CharSet
  | set s => some s
  | _ => none

/-- The patterns of a sequence. -/
def steps? : Pattern → Option (List Pattern)
  | sequence ps => some ps
  | _ => none

/-- How many patterns two sequences begin with in common. -/
def commonLength : List Pattern → List Pattern → Nat
  | p :: ps, q :: qs => if same p q then commonLength ps qs + 1 else 0
  | _, _ => 0

/-- The choice of patterns. Characters alone, or sets alone, are one set, and a beginning that all
sequences have in common is written once. Taking out a beginning may leave one more choice like
this, in depth at most `bound`. -/
def ofChoiceWithin : Nat → List Pattern → Pattern
  | bound, ps =>
    match ps.flatMap branches with
    | [p] => p
    | qs =>
      match qs.mapM onlyChar?, qs.mapM onlySet? with
      | some cs, _ => ofSet (Ranges.ofList (cs.flatMap CharSet.single))
      | _, some ss => ofSet (Ranges.ofList ss.flatten)
      | none, none =>
        match bound, qs.mapM steps? with
        | bound + 1, some (first :: others) =>
          let n := others.foldl (fun n steps => min n (commonLength first steps)) first.length
          if n = 0 then choice qs
          else
            let rest := (first :: others).map fun steps => ofSequence (steps.drop n)
            ofSequence (first.take n ++ [ofChoiceWithin bound rest])
        | _, _ => choice qs

/-- How deep a pattern may be nested in others. -/
def nestLimit : Nat := 250

/-- The choice of patterns. -/
def ofChoice (ps : List Pattern) : Pattern := ofChoiceWithin nestLimit ps

end NativeBuild.Pattern
