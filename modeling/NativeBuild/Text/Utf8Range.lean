import NativeBuild.Text.Utf8

/-!
# Ranges of characters as ranges of bytes

The UTF-8 forms of the characters between two characters are not all the strings of bytes between
two strings. But a range of characters can be cut into pieces such that the forms of the characters
of a piece are all strings whose first byte lies in a first range, whose second byte in a second,
and so on: a *row* of ranges of bytes. A cut is needed where the forms get longer, where the code
points leave out the surrogates, and at multiples of 64, 64 · 64 and 64 · 64 · 64, where more than
the last byte changes.
-/

namespace NativeBuild

namespace Utf8

/-- The first and the last byte of each range. -/
abbrev Row := List (UInt8 × UInt8)

/-- The ranges of code points that have forms of one length and no surrogates among them, and how
many bytes of such a form are not the first. -/
def blocks : List ((Nat × Nat) × Nat) :=
  [((0, 0x7F), 0), ((0x80, 0x7FF), 1), ((0x800, 0xD7FF), 2), ((0xE000, 0xFFFF), 2),
    ((0x10000, 0x10FFFF), 3)]

/-- Cuts the range from `first` to `last` at multiples of `unit`: what is before the first of them,
what is after the last, and what is between, which is cut again at the multiples of a greater unit,
`levels` times in all. -/
def cutAligned : Nat → Nat → Nat → Nat → List (Nat × Nat)
  | levels, unit, first, last =>
    if last < first then []
    else if first / unit = last / unit then [(first, last)]
    else
      match levels with
      | 0 => [(first, last)]
      | levels + 1 =>
        let lo := (first + (unit - 1)) / unit * unit
        let hi := (last + 1) / unit * unit
        (if first < lo then [(first, lo - 1)] else []) ++
          cutAligned levels (unit * 64) lo (hi - 1) ++
          (if hi ≤ last then [(hi, last)] else [])

/-- The row of a piece, from the forms of its first and its last character. -/
def rowOfPiece (piece : Nat × Nat) : Row :=
  (String.utf8EncodeChar (Char.ofNat piece.1)).zip (String.utf8EncodeChar (Char.ofNat piece.2))

/-- The **rows of a range** of code points, in order. -/
def rows (range : Nat × Nat) : List Row :=
  blocks.flatMap fun block =>
    (cutAligned block.2 64 (max range.1 block.1.1) (min range.2 block.1.2)).map rowOfPiece

end Utf8

end NativeBuild
