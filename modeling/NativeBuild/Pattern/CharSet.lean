import NativeBuild.Unicode.Property

/-!
# Sets of characters in patterns

A set of characters is a set of code points in normal form, so that it can be asked for its size and
for its only member as well as for whether a character is in it. Here are the complement, the
combinations and the sets that have names of their own in patterns: those after a backslash and
those between `[:` and `:]`.
-/

namespace NativeBuild.Pattern

open Unicode (Ranges)

/-- A **set of characters**. -/
abbrev CharSet := Ranges

namespace CharSet

/-- The set of one character. -/
def single (c : Char) : CharSet := [(c.toNat, c.toNat)]

/-- The characters from one to another. -/
def range (first last : Char) : CharSet := [(first.toNat, last.toNat)]

/-- The character after another. -/
def next (n : Nat) : Nat := if n = 0xD7FF then 0xE000 else n + 1

/-- The character before another. -/
def previous (n : Nat) : Nat := if n = 0xE000 then 0xD7FF else n - 1

/-- The gaps between ranges, and after the last one. Where two ranges are only parted by what is no
character, the gap is made up of the two characters beside it. -/
def gapsAfter (last : Nat) : CharSet → CharSet
  | [] => if last < 0x10FFFF then [(next last, 0x10FFFF)] else []
  | r :: rest =>
    (min (next last) (previous r.1), max (next last) (previous r.1)) :: gapsAfter r.2 rest

/-- The **complement**. -/
def compl : CharSet → CharSet
  | [] => Ranges.everything
  | r :: rest =>
    if r.1 = 0 then gapsAfter r.2 rest else (0, previous r.1) :: gapsAfter r.2 rest

/-- The set or, if asked for, its complement. -/
def complIf (neg : Bool) (s : CharSet) : CharSet := if neg then s.compl else s

/-- The characters of one of two sets that are not in the other. -/
def symmDiff (a b : CharSet) : CharSet := Ranges.union (Ranges.diff a b) (Ranges.diff b a)

/-- Are there ASCII characters alone in the set? -/
def isAscii (s : CharSet) : Bool := s.all fun r => r.2 < 0x80

/-- The set and the letters of ASCII that differ from one of it in case. -/
def asciiCaseless (s : CharSet) : CharSet :=
  let lower := (Ranges.inter s [(0x61, 0x7A)]).map fun r => (r.1 - 32, r.2 - 32)
  let upper := (Ranges.inter s [(0x41, 0x5A)]).map fun r => (r.1 + 32, r.2 + 32)
  Ranges.ofList (s ++ lower ++ upper)

/-- How many code points are in the set. -/
def size (s : CharSet) : Nat := s.foldl (fun n r => n + (r.2 - r.1 + 1)) 0

/-- The code points of the set in order. -/
def toList (s : CharSet) : List Nat := s.flatMap fun r => (List.range (r.2 - r.1 + 1)).map (r.1 + ·)

/-- The only member of a set that has one member. -/
def only? : CharSet → Option Char
  | [(n, m)] => if n = m then some (Char.ofNat n) else none
  | _ => none

/-! ### Named sets -/

/-- The digits of ASCII. -/
def asciiDigits : CharSet := [(0x30, 0x39)]

/-- The white space of ASCII. -/
def asciiBlanks : CharSet := [(9, 13), (0x20, 0x20)]

/-- The word characters of ASCII. -/
def asciiWord : CharSet := [(0x30, 0x39), (0x41, 0x5A), (0x5F, 0x5F), (0x61, 0x7A)]

/-- The set that `\d`, `\s` and `\w` stand for, by the letter; `unicode` says whether beyond ASCII
too. -/
def ofLetter? (unicode : Bool) (c : Char) : Option CharSet :=
  match c with
  | 'd' => some (if unicode then Unicode.digits else asciiDigits)
  | 's' => some (if unicode then Unicode.whiteSpace else asciiBlanks)
  | 'w' => some (if unicode then Unicode.wordChars else asciiWord)
  | _ => none

/-- The set that a name between `[:` and `:]` stands for. -/
def ofAsciiName? (name : String) : Option CharSet :=
  match name with
  | "alnum" => some [(0x30, 0x39), (0x41, 0x5A), (0x61, 0x7A)]
  | "alpha" => some [(0x41, 0x5A), (0x61, 0x7A)]
  | "ascii" => some [(0, 0x7F)]
  | "blank" => some [(9, 9), (0x20, 0x20)]
  | "cntrl" => some [(0, 0x1F), (0x7F, 0x7F)]
  | "digit" => some asciiDigits
  | "graph" => some [(0x21, 0x7E)]
  | "lower" => some [(0x61, 0x7A)]
  | "print" => some [(0x20, 0x7E)]
  | "punct" => some [(0x21, 0x2F), (0x3A, 0x40), (0x5B, 0x60), (0x7B, 0x7E)]
  | "space" => some asciiBlanks
  | "upper" => some [(0x41, 0x5A)]
  | "word" => some asciiWord
  | "xdigit" => some [(0x30, 0x39), (0x41, 0x46), (0x61, 0x66)]
  | _ => none

end CharSet

end NativeBuild.Pattern
