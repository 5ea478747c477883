import NativeBuild.Pattern.Basic
import NativeBuild.Pattern.Mode
import NativeBuild.Text.Hex

/-!
# Escapes

A backslash makes a mark stand for itself, or a letter for a set, a condition, a control or a
character by number. The readers here begin after the backslash and give back what it stands for and
what is left of the text.
-/

namespace NativeBuild.Pattern

/-- What a single item stands for. -/
inductive Primitive where
  /-- A character; `byte` if it was given as the number of a byte. -/
  | char (c : Char) (byte : Bool)
  | set (s : CharSet)
  | look (l : Look)

/-! ### Characters by number -/

/-- The character with the number that hexadecimal digits spell. -/
def hexChar? (ds : List Char) : Option Char :=
  if ds = [] then none else (Text.hexNumber? ds).bind Text.charOfNumber?

/-- A character by number, after the letter of the escape: between braces, or in `digits` digits. -/
def hexEscape? (m : Mode) (digits : Nat) (cs : List Char) : Option (Char × List Char) :=
  match m.skip cs with
  | '\x7b' :: r =>
    match m.span (· != '\x7d') r with
    | (ds, '\x7d' :: rest) => (hexChar? ds).map fun c => (c, rest)
    | _ => none
  | cs => (m.take? digits cs).bind fun x => (hexChar? x.1).map fun c => (c, x.2)

/-! ### Properties -/

/-- What is before and after the first place where a text occurs. -/
def cut? (mark : List Char) : List Char → Option (List Char × List Char)
  | [] => none
  | c :: r =>
    if mark.isPrefixOf (c :: r) then some ([], (c :: r).drop mark.length)
    else (cut? mark r).map fun x => (c :: x.1, x.2)

/-- The set that the text in braces stands for, and whether its complement is meant: a name, or a
property and a value, equal or unequal. -/
def propertyNamed? (body : List Char) : Option (CharSet × Bool) :=
  match cut? ['!', '='] body with
  | some (property, value) => (Unicode.propertyWithValue? property value).map (·, true)
  | none =>
    match (cut? [':'] body).or (cut? ['='] body) with
    | some (property, value) => (Unicode.propertyWithValue? property value).map (·, false)
    | none => (Unicode.propertyNamed? body).map (·, false)

/-- The set of a property, after the letter of the escape; `neg` says whether the letter means the
complement. -/
def propertyEscape? (m : Mode) (neg : Bool) (cs : List Char) : Option (CharSet × List Char) :=
  if !m.unicode then none
  else
    let found := match m.skip cs with
      | [] | '\\' :: _ => none
      | '\x7b' :: r =>
        match m.span (· != '\x7d') r with
        | (body, '\x7d' :: rest) => (propertyNamed? body).map fun x => (x, rest)
        | _ => none
      | c :: r => (Unicode.propertyNamed? [c]).map fun s => ((s, false), r)
    found.map fun x => (CharSet.complIf (x.1.2 != neg) (m.fold x.1.1), x.2)

/-! ### Conditions -/

/-- The condition that a name in braces after `\b` stands for. -/
def boundaryNamed? (u : Bool) (name : List Char) : Option Look :=
  match String.ofList name with
  | "start" => some (.wordStart u)
  | "end" => some (.wordEnd u)
  | "start-half" => some (.wordStartHalf u)
  | "end-half" => some (.wordEndHalf u)
  | _ => none

/-- A character of the name of a condition. -/
def isBoundaryChar (c : Char) : Bool := c.isAlpha || c = '-'

/-- The condition of `\b`, after its letter. Braces that hold no name are left: they repeat. -/
def boundary? (m : Mode) (cs : List Char) : Option (Look × List Char) :=
  match cs with
  | '\x7b' :: r =>
    match m.skip r, m.span isBoundaryChar r with
    | [], _ => none
    | _, ([], _) => some (.wordBoundary m.unicode, cs)
    | _, (name, '\x7d' :: rest) => (boundaryNamed? m.unicode name).map fun l => (l, rest)
    | _, _ => none
  | _ => some (.wordBoundary m.unicode, cs)

/-! ### All escapes -/

/-- May a backslash make this character stand for itself? -/
def isEscapable (c : Char) : Bool :=
  c.toNat < 0x80 && !(c.isAlphanum || c = '<' || c = '>')

/-- What an escape stands for, after the backslash. -/
def escape? (m : Mode) : List Char → Option (Primitive × List Char)
  | [] => none
  | c :: r =>
    let char := fun (x : Char) => some (Primitive.char x false, r)
    if isEscapable c then char c
    else
      match c with
      | 'a' => char '\x07'
      | 'f' => char '\x0c'
      | 't' => char '\t'
      | 'n' => char '\n'
      | 'r' => char '\r'
      | 'v' => char '\x0b'
      | 'A' => some (.look .textStart, r)
      | 'z' => some (.look .textEnd, r)
      | 'B' => some (.look (.notWordBoundary m.unicode), r)
      | '<' => some (.look (.wordStart m.unicode), r)
      | '>' => some (.look (.wordEnd m.unicode), r)
      | 'b' => (boundary? m r).map fun x => (.look x.1, x.2)
      | 'x' =>
        (hexEscape? m 2 r).map fun x => (.char x.1 ((m.skip r).head? != some '\x7b'), x.2)
      | 'u' => (hexEscape? m 4 r).map fun x => (.char x.1 false, x.2)
      | 'U' => (hexEscape? m 8 r).map fun x => (.char x.1 false, x.2)
      | 'p' => (propertyEscape? m false r).map fun x => (.set x.1, x.2)
      | 'P' => (propertyEscape? m true r).map fun x => (.set x.1, x.2)
      | _ =>
        match CharSet.ofLetter? m.unicode c with
        | some s => some (.set s, r)
        | none => (CharSet.ofLetter? m.unicode c.toLower).map fun s => (.set s.compl, r)

end NativeBuild.Pattern
