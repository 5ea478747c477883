import NativeBuild.Unicode.Ranges

/-!
# Tables of properties with values

A property that gives every code point one of some values is kept as a row of runs, each the letters
of a value and a length in hexadecimal. The runs begin at zero and follow each other without gaps.
-/

namespace NativeBuild.Unicode

/-- The code points in order: a value, and how many follow each other with it. -/
abbrev Partition := List (String × Nat)

namespace Partition

/-- A digit of a length; the letters of a value begin in upper case. -/
def isLengthDigit (c : Char) : Bool := c.isDigit || ('a' ≤ c && c ≤ 'f')

/-- Reads a row of runs whose values have `width` letters. -/
def ofCodeWithin (width : Nat) : Nat → List Char → Partition
  | 0, _ => []
  | _, [] => []
  | bound + 1, cs =>
    let rest := cs.drop width
    (String.ofList (cs.take width), Ranges.numberValue (rest.takeWhile isLengthDigit)) ::
      ofCodeWithin width bound (rest.dropWhile isLengthDigit)

/-- The partition that a row of runs spells. -/
def ofCode (width : Nat) (row : String) : Partition := ofCodeWithin width row.length row.toList

/-- The runs from a code point on whose values satisfy a condition. -/
def selectFrom (p : String → Bool) (start : Nat) : Partition → List (Nat × Nat)
  | [] => []
  | (v, n) :: r =>
    if p v then (start, start + n - 1) :: selectFrom p (start + n) r
    else selectFrom p (start + n) r

/-- The code points whose values satisfy a condition. -/
def select (runs : Partition) (p : String → Bool) : Ranges := Ranges.ofList (runs.selectFrom p 0)

end Partition

end NativeBuild.Unicode
