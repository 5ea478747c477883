import NativeBuild.Json.Basic
import NativeBuild.Text.Hex

/-!
# Reading JSON

The grammar of JSON texts as functions from what is left of a text to a value and what is left after
it. Blanks are space, tab, line feed and carriage return. A value may be as deep as it likes: the
bound that the functions carry is the length of the text, and each step into a value takes a
character off.

An escape that spells half of a surrogate pair is read, but the string in which it stands is the
string of no text.
-/

namespace NativeBuild

namespace Json

/-- White space between tokens. -/
def isSpace (c : Char) : Bool := c = ' ' || c = '\n' || c = '\t' || c = '\r'

/-- A text without the blanks in front. -/
def skipSpace (cs : List Char) : List Char := cs.dropWhile isSpace

/-- The number that four hexadecimal digits spell. -/
def hex4? (a b c d : Char) : Option Nat := do
  return (((← Text.hexValue? a) * 16 + (← Text.hexValue? b)) * 16 + (← Text.hexValue? c)) * 16 +
    (← Text.hexValue? d)

/-- The character of a code unit that is no half of a surrogate pair. -/
def unitChar? (n : Nat) : Option Char :=
  if 0xD800 ≤ n ∧ n ≤ 0xDFFF then none else some (Char.ofNat n)

/-- The character of a surrogate pair. -/
def pairChar? (high low : Nat) : Option Char :=
  if 0xD800 ≤ high ∧ high ≤ 0xDBFF ∧ 0xDC00 ≤ low ∧ low ≤ 0xDFFF then
    some (Char.ofNat (0x10000 + (high - 0xD800) * 0x400 + (low - 0xDC00)))
  else none

/-- The character that a letter stands for after a backslash. -/
def letterEscape? (c : Char) : Option Char :=
  match c with
  | '"' => some '"'
  | '\\' => some '\\'
  | '/' => some '/'
  | 'b' => some '\x08'
  | 'f' => some '\x0c'
  | 'n' => some '\n'
  | 'r' => some '\r'
  | 't' => some '\t'
  | _ => none

/-- Puts a character, or the mark of a missing one, in front of a string that was read. -/
def consUnit (c : Option Char) (rest : Option (List (Option Char) × List Char)) :
    Option (List (Option Char) × List Char) :=
  rest.map fun x => (c :: x.1, x.2)

/-- The characters of a string up to its closing quote, and what is left after it; an escape that
spells no character gives `none`. -/
def stringUnits : List Char → Option (List (Option Char) × List Char)
  | [] => none
  | '"' :: r => some ([], r)
  | '\\' :: 'u' :: a :: b :: c :: d :: '\\' :: 'u' :: e :: f :: g :: h :: r =>
    match hex4? a b c d with
    | none => none
    | some high =>
      match (hex4? e f g h).bind (pairChar? high) with
      | some x => consUnit (some x) (stringUnits r)
      -- no pair: the second escape is read again, on its own
      | none => consUnit (unitChar? high) (stringUnits ('\\' :: 'u' :: e :: f :: g :: h :: r))
  | '\\' :: 'u' :: a :: b :: c :: d :: r =>
    match hex4? a b c d with
    | none => none
    | some n => consUnit (unitChar? n) (stringUnits r)
  | '\\' :: c :: r =>
    match letterEscape? c with
    | some x => consUnit (some x) (stringUnits r)
    | none => none
  | c :: r => if c.toNat < 0x20 then none else consUnit (some c) (stringUnits r)

/-- A string after its opening quote. -/
def readString (cs : List Char) : Option (Option String × List Char) :=
  (stringUnits cs).map fun x => ((x.1.mapM id).map String.ofList, x.2)

/-- One or more digits. -/
def readDigits (cs : List Char) : Option (List Char × List Char) :=
  match cs.takeWhile Char.isDigit with
  | [] => none
  | ds => some (ds, cs.dropWhile Char.isDigit)

/-- The whole part of a number: a zero, or digits that begin with none. -/
def readWhole : List Char → Option (List Char × List Char)
  | '0' :: r => if (r.head?.map Char.isDigit).getD false then none else some (['0'], r)
  | cs => readDigits cs

/-- The fraction of a number, if it has one. -/
def readFraction : List Char → Option (List Char × List Char)
  | '.' :: r => (readDigits r).map fun x => ('.' :: x.1, x.2)
  | cs => some ([], cs)

/-- The exponent of a number, if it has one. -/
def readExponent : List Char → Option (List Char × List Char)
  | c :: r =>
    if c = 'e' ∨ c = 'E' then
      match r with
      | s :: r' =>
        if s = '+' ∨ s = '-' then (readDigits r').map fun x => (c :: s :: x.1, x.2)
        else (readDigits r).map fun x => (c :: x.1, x.2)
      | [] => none
    else some ([], c :: r)
  | [] => some ([], [])

/-- A number without its sign. -/
def readUnsigned (cs : List Char) : Option (List Char × List Char) := do
  let (whole, r) ← readWhole cs
  let (fraction, r) ← readFraction r
  let (exponent, r) ← readExponent r
  return (whole ++ fraction ++ exponent, r)

/-- A number. -/
def readNumber : List Char → Option (Json × List Char)
  | '-' :: r => (readUnsigned r).map fun x => (.number ('-' :: x.1), x.2)
  | cs => (readUnsigned cs).map fun x => (.number x.1, x.2)

/-- What is left after a given word. -/
def readLiteral (word : String) (j : Json) (cs : List Char) : Option (Json × List Char) :=
  (word.toList.isPrefixOf? cs).map fun r => (j, r)

mutual

/-- A value at the front of a text, after blanks. -/
def readValue (bound : Nat) (cs : List Char) : Option (Json × List Char) :=
  match bound with
  | 0 => none
  | bound + 1 =>
    match skipSpace cs with
    | [] => none
    | c :: r =>
      if c = '"' then (readString r).map fun x => (.string x.1, x.2)
      else if c = '[' then
        match skipSpace r with
        | ']' :: r' => some (.array [], r')
        | r' => (readItems bound r').map fun x => (.array x.1, x.2)
      else if c = '\x7b' then
        match skipSpace r with
        | '\x7d' :: r' => some (.object [], r')
        | r' => (readFields bound r').map fun x => (.object x.1, x.2)
      else if c = 'n' then readLiteral "null" .null (c :: r)
      else if c = 't' then readLiteral "true" (.bool true) (c :: r)
      else if c = 'f' then readLiteral "false" (.bool false) (c :: r)
      else readNumber (c :: r)

/-- The items of an array, one or more, and its closing bracket. -/
def readItems (bound : Nat) (cs : List Char) : Option (List Json × List Char) :=
  match bound with
  | 0 => none
  | bound + 1 =>
    match readValue bound cs with
    | none => none
    | some (j, r) =>
      match skipSpace r with
      | ',' :: r' => (readItems bound r').map fun x => (j :: x.1, x.2)
      | ']' :: r' => some ([j], r')
      | _ => none

/-- The fields of an object, one or more, and its closing bracket. -/
def readFields (bound : Nat) (cs : List Char) :
    Option (List (Option String × Json) × List Char) :=
  match bound with
  | 0 => none
  | bound + 1 =>
    match skipSpace cs with
    | '"' :: r =>
      match readString r with
      | none => none
      | some (k, r) =>
        match skipSpace r with
        | ':' :: r =>
          match readValue bound r with
          | none => none
          | some (v, r) =>
            match skipSpace r with
            | ',' :: r' => (readFields bound r').map fun x => ((k, v) :: x.1, x.2)
            | '\x7d' :: r' => some ([(k, v)], r')
            | _ => none
        | _ => none
    | _ => none

end

/-- The value that a text spells, with nothing but blanks around it. -/
def read? (cs : List Char) : Option Json :=
  match readValue (2 * cs.length + 2) cs with
  | some (j, r) => if skipSpace r = [] then some j else none
  | none => none

end Json

end NativeBuild
