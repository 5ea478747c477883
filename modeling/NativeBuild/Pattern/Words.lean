import NativeBuild.Pattern.Form
import NativeBuild.Text.Utf8

/-!
# Patterns that are lists of words

A text matches a pattern that is a short list of words if one of the words is in it. Such a pattern
needs no automaton, and so it is not refused however large its automata would be:
`app|[a&&b]{400000}` describes `app` alone.

The words are found from the shape of a pattern. An *onset* is bytes with which texts described may
begin; it is *whole* if it is such a text itself. The onsets of a pattern are listed in the order in
which they are preferred (`onsets?`), unless there are too many. Onsets that are too long are cut,
and those of what is repeated too often are not followed to the end; both are not whole any more.

A pattern is a list of words (`isWordList`) if it has no numbered groups and no conditions on
places, all onsets that decide whether a text matches are whole and none is empty, and it would not
be quicker to look for the beginnings that they share or for shorter ones first
(`isSoughtByBeginnings`), which then takes an automaton to go on from there. A very long choice of
plain words (`isWordChoice`) is a list of words in any case.
-/

namespace NativeBuild.Pattern

/-! ### Onsets -/

/-- Bytes with which texts may begin, and whether they are such a text: an **onset**. -/
structure Onset where
  bytes : Bytes
  whole : Bool
  deriving DecidableEq, Repr

namespace Onset

/-- The onset of the empty text. -/
def empty : Onset := ⟨[], true⟩

/-- The onset of longer texts. -/
def broken (o : Onset) : Onset := { o with whole := false }

/-- An onset of at most so many bytes. -/
def cutTo (length : Nat) (o : Onset) : Onset :=
  if o.bytes.length ≤ length then o else ⟨o.bytes.take length, false⟩

/-- An onset that is whole, and another one after it. -/
def followedBy (o o' : Onset) : Onset := ⟨o.bytes ++ o'.bytes, o'.whole⟩

end Onset

/-- The onsets of a pattern, unless there are too many. -/
abbrev Onsets := Option (List Onset)

namespace Onsets

/-- How many onsets a list may have. -/
def countLimit : Nat := 250

/-- How many characters a set may have whose characters are onsets. -/
def setLimit : Nat := 10

/-- How often an onset is repeated. -/
def roundLimit : Nat := 10

/-- How many bytes an onset may have. -/
def lengthLimit : Nat := 100

/-- How many bytes onsets have that are too many when they are not cut. -/
def shortLength : Nat := 4

/-- Onsets in which neighbours that are the same are one. It is whole if all of them are. -/
def merged : List Onset → List Onset
  | [] => []
  | o :: os =>
    match merged os with
    | [] => [o]
    | o' :: rest => if o.bytes = o'.bytes then ⟨o.bytes, o.whole && o'.whole⟩ :: rest
      else o :: o' :: rest

/-- The onsets of either of two patterns, of which the first is preferred. -/
def union (a b : Onsets) : Onsets := do
  let a ← a
  let b ← b
  if a.length + b.length ≤ countLimit then return merged (a ++ b)
  else
    let cut := fun (os : List Onset) => merged (os.map (·.cutTo shortLength))
    if (cut a).length + (cut b).length ≤ countLimit then return merged (cut a ++ cut b) else none

/-- The onsets of longer texts. -/
def broken (a : Onsets) : Onsets := a.map (·.map Onset.broken)

/-- Are there no whole onsets, so that what follows adds nothing to them? -/
def isFinal (a : Onsets) : Bool :=
  match a with
  | none => true
  | some os => os.all (!·.whole)

/-- The onsets of one pattern after another. If those of the other are too many, the first ones do,
unless one of them is empty. -/
def followedBy (a b : Onsets) : Onsets := do
  let os ← a
  match b.filter fun os' => os.length * os'.length ≤ countLimit with
  | some os' =>
    return (merged (os.flatMap fun o => if o.whole then os'.map o.followedBy else [o])).map
      (·.cutTo lengthLimit)
  | none => if os.any (·.bytes.isEmpty) then none else broken os

/-- Onsets, each time followed by others, `n` times. -/
def followedTimes (a b : Onsets) : Nat → Onsets
  | 0 => a
  | n + 1 => if a.isFinal then a else followedTimes (a.followedBy b) b n

/-- The onsets of a repetition. -/
def ofRepeated (a : Onsets) (least : Nat) (most : Option Nat) (few : Bool) : Onsets :=
  if least = 0 then
    let a := if most = some 1 then a else broken a
    if few then union (some [.empty]) a else union a (some [.empty])
  else
    let a := followedTimes (some [.empty]) a (min least roundLimit)
    if most = some least ∧ least ≤ roundLimit then a else broken a

/-- The onsets of a set of characters. -/
def ofSet (s : CharSet) : Onsets :=
  if CharSet.size s ≤ setLimit then
    some ((CharSet.toList s).map fun n => ⟨Utf8.encode [Char.ofNat n], true⟩)
  else none

end Onsets

mutual

/-- The **onsets of a pattern**. -/
def onsets? : Pattern → Onsets
  | .empty | .look _ => some [.empty]
  | .literal cs => some [Onset.cutTo Onsets.lengthLimit ⟨Utf8.encode cs, true⟩]
  | .set s => Onsets.ofSet s
  | .repeated p least most few => (onsets? p).ofRepeated least most few
  | .group _ p => onsets? p
  | .sequence ps => onsetsInOrder? (some [.empty]) ps
  | .choice ps => onsetsOfAny? (some []) ps

/-- Onsets, followed by those of patterns in order. -/
def onsetsInOrder? (a : Onsets) : List Pattern → Onsets
  | [] => a
  | p :: ps => if a.isFinal then a else onsetsInOrder? (a.followedBy (onsets? p)) ps

/-- Onsets, and those of any of some patterns. -/
def onsetsOfAny? (a : Onsets) : List Pattern → Onsets
  | [] => a
  | p :: ps => if a.isNone then none else onsetsOfAny? (a.union (onsets? p)) ps

end

/-! ### Lists of words -/

/-- The onsets that decide whether a text matches: those that no other one before them begins. -/
def deciding (os : List Onset) : List Onset :=
  os.foldl (fun kept o => if kept.any (·.bytes.isPrefixOf o.bytes) then kept else kept ++ [o]) []

/-- How many bytes two words share at the beginning. -/
def sharedLength : Bytes → Bytes → Nat
  | a :: as, b :: bs => if a = b then sharedLength as bs + 1 else 0
  | _, _ => 0

/-- The characters that begin words too often for one to be looked for by its first byte. Those
beyond ASCII do so too. -/
def frequentChars : List Char := "\n\r (),-./0129:_abcdefghilmnoprstuvxy|".toList

/-- Is a byte found too often to be looked for alone? -/
def isFrequent (b : UInt8) : Bool := b ≥ 0x80 || frequentChars.any (·.toNat = b.toNat)

/-- To how many bytes the onsets in a list are cut, while they are more than so many. -/
def cuts : List (Nat × Nat) := [(5, 10), (4, 10), (3, 64), (2, 64), (1, 10)]

/-- The onsets that are left if a list that is too long is cut step by step. -/
def shortened : List (Nat × Nat) → List Onset → List Onset
  | [], os => os
  | (length, limit) :: rest, os =>
    if os.length ≤ limit then os else shortened rest (deciding (os.map (·.cutTo length)))

/-- Is it quicker to look for beginnings of some words than for the words themselves? So it is if
the words, among `given` onsets, share a first byte that is rare and little more, if they share many
bytes, and if there are many words whose beginnings are few and not too short. -/
def isSoughtByBeginnings (given : Nat) (words : List Onset) : Bool :=
  let first := (words.head?.map Onset.bytes).getD []
  let shared := words.foldl (fun n o => min n (sharedLength first o.bytes)) first.length
  let areLonger := fun (n : Nat) => words.any (n < ·.bytes.length)
  if given > 1 && 1 ≤ shared && shared ≤ 3 && !first.head?.any isFrequent then areLonger 1
  else if shared > 4 || (shared > 1 && words.length > 16) then areLonger shared
  else
    let short := shortened cuts words
    short.all (2 < ·.bytes.length) && short.length ≤ 64 && short.any (!·.whole)

mutual

/-- Is a pattern without numbered groups and conditions on places? -/
def isPlain : Pattern → Bool
  | .empty | .literal _ | .set _ => true
  | .look _ | .group _ _ => false
  | .repeated p _ _ _ => isPlain p
  | .sequence ps | .choice ps => arePlain ps

/-- Are patterns without numbered groups and conditions on places? -/
def arePlain : List Pattern → Bool
  | [] => true
  | p :: ps => isPlain p && arePlain ps

end

/-- Is a pattern a choice of 3000 or more texts? -/
def isWordChoice : Pattern → Bool
  | .choice ps => ps.length ≥ 3000 && ps.all (· matches .literal _)
  | _ => false

/-- Is a pattern a **list of words**, for which no automaton is made? -/
def isWordList (p : Pattern) : Bool :=
  isWordChoice p ||
    isPlain p &&
      match onsets? p with
      | none => false
      | some os =>
        let words := deciding os
        !words.isEmpty && words.all (fun o => o.whole && !o.bytes.isEmpty) &&
          !isSoughtByBeginnings os.length words

end NativeBuild.Pattern
