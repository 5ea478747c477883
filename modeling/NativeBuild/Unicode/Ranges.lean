/-!
# Sets of code points

A set of code points is the list of its ranges, each with its first and its last member. In normal
form the ranges are in order and between two of them lies a code point that is in neither, so that a
set has one form. `Ranges.ofList` brings any list of ranges into normal form, and the operations
keep it.

Code points from D800 to DFFF are no characters. `diff` leaves them out; a range may run across
them.
-/

namespace NativeBuild.Unicode

/-- A set of code points: first and last of each range. -/
abbrev Ranges := List (Nat × Nat)

namespace Ranges

/-- Is a code point in one of the ranges? -/
def containsCode (rs : Ranges) (n : Nat) : Bool := rs.any fun r => r.1 ≤ n && n ≤ r.2

/-- Is a character in one of the ranges? -/
def contains (rs : Ranges) (c : Char) : Bool := rs.containsCode c.toNat

/-- The set of all code points. -/
def everything : Ranges := [(0, 0x10FFFF)]

/-- Joins a range with those of the following ones that it overlaps or touches, and these with each
other. The ranges are in order of their first code points. -/
def joinFrom (r : Nat × Nat) : Ranges → Ranges
  | [] => [r]
  | s :: rest => if s.1 ≤ r.2 + 1 then joinFrom (r.1, max r.2 s.2) rest else r :: joinFrom s rest

/-- The **normal form** of the set that some ranges make up. -/
def ofList (rs : List (Nat × Nat)) : Ranges :=
  match rs.mergeSort fun r s => r.1 ≤ s.1 with
  | [] => []
  | r :: rest => joinFrom r rest

/-- The code points of either set. -/
def union (a b : Ranges) : Ranges := ofList (a ++ b)

/-- The code points of both sets. -/
def inter : Ranges → Ranges → Ranges
  | [], _ => []
  | _, [] => []
  | r :: a, s :: b =>
    let rest := if r.2 < s.2 then inter a (s :: b) else inter (r :: a) b
    if max r.1 s.1 ≤ min r.2 s.2 then (max r.1 s.1, min r.2 s.2) :: rest else rest
termination_by a b => a.length + b.length

/-- The code points from `start` on that are not in a set. -/
def gapsFrom (start : Nat) : Ranges → Ranges
  | [] => if start ≤ 0x10FFFF then [(start, 0x10FFFF)] else []
  | r :: rest =>
    if start < r.1 then (start, r.1 - 1) :: gapsFrom (r.2 + 1) rest else gapsFrom (r.2 + 1) rest

/-- A range without those of its ends that are no characters. -/
def trim? (r : Nat × Nat) : Option (Nat × Nat) :=
  let first := if 0xD800 ≤ r.1 && r.1 ≤ 0xDFFF then 0xE000 else r.1
  let last := if 0xD800 ≤ r.2 && r.2 ≤ 0xDFFF then 0xD7FF else r.2
  if first ≤ last then some (first, last) else none

/-- The characters of one set that are not in the other. -/
def diff (a b : Ranges) : Ranges := (a.inter (gapsFrom 0 b)).filterMap trim?

/-! ### Reading tables -/

/-- The number that a hexadecimal digit in lower case stands for. -/
def digitValue (c : Char) : Nat := if c ≤ '9' then c.toNat - 48 else c.toNat - 87

/-- The number that hexadecimal digits spell. -/
def numberValue (ds : List Char) : Nat := ds.foldl (fun n d => n * 16 + digitValue d) 0

/-- Reads a row of lengths, from a code point on that is in the set or not. -/
def ofTurnsFrom (start : Nat) (isIn : Bool) : List Nat → Ranges
  | [] => []
  | n :: r =>
    if isIn then (start, start + n - 1) :: ofTurnsFrom (start + n) false r
    else ofTurnsFrom (start + n) true r

/-- The set that a row of lengths in hexadecimal spells: so many code points that are not in it, so
many that are, and so on in turn. -/
def ofTurns (row : String) : Ranges :=
  ofTurnsFrom 0 false ((row.toList.splitOn ' ').map numberValue)

end Ranges

end NativeBuild.Unicode
