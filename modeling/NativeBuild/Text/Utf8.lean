/-!
# Reading UTF-8

Names and file contents are bytes; what is shown and what is parsed is text. `units` reads bytes as
UTF-8 and gives one unit for every character it finds and one for every *maximal invalid subpart*:
the longest run of bytes at a place where no character can be read that could still have begun one,
or a single byte. So a unit is either a character or the mark of a fault, and both ways of reading
are one-line maps over it:

* `decode?` is strict: there is a text only if no unit is a fault;
* `decodeLossy` puts U+FFFD for every fault and always gives a text.

`encode` writes a text as bytes.
-/

namespace NativeBuild

/-- A string of bytes. -/
abbrev Bytes := List UInt8

namespace Utf8

/-- A byte that can only continue a character. -/
def isContinuation (b : UInt8) : Bool := 0x80 ≤ b && b ≤ 0xBF

/-- The second bytes that may follow `lead`: none begins an overlong form, a surrogate or a number
above `U+10FFFF`. -/
def secondRange (lead : UInt8) : UInt8 × UInt8 :=
  if lead = 0xE0 then (0xA0, 0xBF)
  else if lead = 0xED then (0x80, 0x9F)
  else if lead = 0xF0 then (0x90, 0xBF)
  else if lead = 0xF4 then (0x80, 0x8F)
  else (0x80, 0xBF)

/-- May `b` stand second after `lead`? -/
def isSecond (lead b : UInt8) : Bool := (secondRange lead).1 ≤ b && b ≤ (secondRange lead).2

/-- The low six bits of a continuation byte. -/
def tailBits (b : UInt8) : Nat := b.toNat - 0x80

/-- The characters and faults that bytes hold when they are read as UTF-8, in order; a fault is
`none`. -/
def units : Bytes → List (Option Char)
  | [] => []
  | a :: r =>
    if a < 0x80 then some (Char.ofNat a.toNat) :: units r
    else if 0xC2 ≤ a && a ≤ 0xDF then
      match r with
      | b :: r' =>
        if isContinuation b then
          some (Char.ofNat ((a.toNat - 0xC0) * 64 + tailBits b)) :: units r'
        -- the byte that does not fit is read again: it may begin a character
        else none :: units (b :: r')
      | [] => [none]
    else if 0xE0 ≤ a && a ≤ 0xEF then
      match r with
      | b :: c :: r' =>
        if isSecond a b then
          if isContinuation c then
            some (Char.ofNat (((a.toNat - 0xE0) * 64 + tailBits b) * 64 + tailBits c)) :: units r'
          else none :: units (c :: r')
        else none :: units (b :: c :: r')
      | [b] => if isSecond a b then [none] else none :: units [b]
      | [] => [none]
    else if 0xF0 ≤ a && a ≤ 0xF4 then
      match r with
      | b :: c :: d :: r' =>
        if isSecond a b then
          if isContinuation c then
            if isContinuation d then
              some (Char.ofNat
                ((((a.toNat - 0xF0) * 64 + tailBits b) * 64 + tailBits c) * 64 + tailBits d)) ::
                  units r'
            else none :: units (d :: r')
          else none :: units (c :: d :: r')
        else none :: units (b :: c :: d :: r')
      -- the bytes end in the middle of a character: as much of it as is there is one fault
      | [b, c] =>
        if isSecond a b then
          if isContinuation c then [none] else none :: units [c]
        else none :: units [b, c]
      | [b] => if isSecond a b then [none] else none :: units [b]
      | [] => [none]
    else none :: units r

/-- Strict reading: the text that the bytes are the UTF-8 form of, if they are one. -/
def decode? (bs : Bytes) : Option (List Char) := (units bs).mapM id

/-- Lossy reading: every fault becomes the replacement character. -/
def decodeLossy (bs : Bytes) : List Char := (units bs).map (·.getD '\uFFFD')

/-- The UTF-8 form of a text. -/
def encode (cs : List Char) : Bytes := cs.flatMap String.utf8EncodeChar

end Utf8

end NativeBuild
