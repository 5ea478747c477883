import NativeBuild.Config.Basic
import NativeBuild.Text.Hex

/-!
# Settings in TOML

Configuration files are TOML documents. A configuration has only texts and switches, and none of
them in a table, so the documents that can be one are flat: each line is blank, a comment, or a key
with a string or a boolean. These are read in full, with all four kinds of strings; in a document of
any other form there is no configuration, so it need not be read.

Strings between quotes have escapes, strings between apostrophes have none. Three quotes or
apostrophes open a string of several lines: a line break right after them does not count, every line
break inside counts as one line feed, and one or two quotes may stand anywhere, at the end too. A
backslash at the end of a line joins it to the next character that is neither blank nor a line
break.
-/

namespace NativeBuild

namespace Toml

/-- Blanks inside a line. -/
def isBlank (c : Char) : Bool := c = ' ' || c = '\t'

/-- A text without the blanks in front. -/
def skipBlanks (cs : List Char) : List Char := cs.dropWhile isBlank

/-- The characters that may stand in a comment, and unescaped in strings: tabs and what is no
control. -/
def isPlain (c : Char) : Bool := c = '\t' || (0x20 ≤ c.toNat && c.toNat ≠ 0x7F)

/-- What is left after a line break, if there is one in front. -/
def lineBreak? : List Char → Option (List Char)
  | '\n' :: r => some r
  | '\r' :: '\n' :: r => some r
  | _ => none

/-- The end of a line: blanks, a comment, and a line break or the end of the text. -/
def endOfLine? (cs : List Char) : Option (List Char) :=
  let r := skipBlanks cs
  let r := match r with
    | '#' :: comment => comment.dropWhile isPlain
    | _ => r
  if r = [] then some [] else lineBreak? r

/-! ### Strings -/

/-- The character that a letter stands for after a backslash. -/
def letterEscape? (c : Char) : Option Char :=
  match c with
  | 'b' => some '\x08'
  | 't' => some '\t'
  | 'n' => some '\n'
  | 'f' => some '\x0c'
  | 'r' => some '\r'
  | '"' => some '"'
  | '\\' => some '\\'
  | _ => none

/-- The character that an escape stands for, after its backslash, and what is left. -/
def escape? : List Char → Option (Char × List Char)
  | [] => none
  | c :: r =>
    if c = 'u' then
      if (r.take 4).length = 4 then
        ((Text.hexNumber? (r.take 4)).bind Text.charOfNumber?).map fun x => (x, r.drop 4)
      else none
    else if c = 'U' then
      if (r.take 8).length = 8 then
        ((Text.hexNumber? (r.take 8)).bind Text.charOfNumber?).map fun x => (x, r.drop 8)
      else none
    else (letterEscape? c).map fun x => (x, r)

/-- Puts a character in front of a string that was read. -/
def consChar (c : Char) (rest : Option (List Char × List Char)) : Option (List Char × List Char) :=
  rest.map fun x => (c :: x.1, x.2)

/-- A string of one line between quotes, after the first quote. -/
def basic (bound : Nat) (cs : List Char) : Option (List Char × List Char) :=
  match bound with
  | 0 => none
  | bound + 1 =>
    match cs with
    | [] => none
    | '"' :: r => some ([], r)
    | '\\' :: r =>
      match escape? r with
      | some (c, r') => consChar c (basic bound r')
      | none => none
    | c :: r => if isPlain c then consChar c (basic bound r) else none

/-- A string of one line between apostrophes, after the first apostrophe. -/
def literal : List Char → Option (List Char × List Char)
  | [] => none
  | c :: r =>
    if c = '\'' then some ([], r) else if isPlain c then consChar c (literal r) else none

/-- A text without the blanks and line breaks in front. -/
def skipBreaks : List Char → List Char
  | [] => []
  | c :: r =>
    if isBlank c || c = '\n' then skipBreaks r
    else if c = '\r' ∧ r.head? = some '\n' then skipBreaks r
    else c :: r

/-- A string of several lines between triples of `mark`, after the first triple; `escapes` says
whether backslashes escape. -/
def multiline (mark : Char) (escapes : Bool) (bound : Nat) (cs : List Char) :
    Option (List Char × List Char) :=
  match bound with
  | 0 => none
  | bound + 1 =>
    match cs with
    | [] => none
    | c :: r =>
      if c = mark then
        let marks := (c :: r).takeWhile (· = mark)
        let after := (c :: r).dropWhile (· = mark)
        if marks.length < 3 then
          (multiline mark escapes bound after).map fun x => (marks ++ x.1, x.2)
        -- up to two quotes may stand right before the three that close the string
        else if marks.length < 6 then some (marks.drop 3, after)
        else none
      else if c = '\\' ∧ escapes = true then
        match lineBreak? (skipBlanks r) with
        | some r' => multiline mark escapes bound (skipBreaks r')
        | none =>
          match escape? r with
          | some (x, r') => consChar x (multiline mark escapes bound r')
          | none => none
      else
        match lineBreak? (c :: r) with
        | some r' => consChar '\n' (multiline mark escapes bound r')
        | none => if isPlain c then consChar c (multiline mark escapes bound r) else none

/-- A text without the line break in front, if there is one. -/
def skipBreak (cs : List Char) : List Char := (lineBreak? cs).getD cs

/-- A string of any kind. -/
def string? (cs : List Char) : Option (List Char × List Char) :=
  match cs with
  | '"' :: '"' :: '"' :: r => multiline '"' true (cs.length + 1) (skipBreak r)
  | '"' :: r => basic (cs.length + 1) r
  | '\'' :: '\'' :: '\'' :: r => multiline '\'' false (cs.length + 1) (skipBreak r)
  | '\'' :: r => literal r
  | _ => none

/-! ### Lines and documents -/

/-- The characters of which a key without quotes consists. -/
def isKeyChar (c : Char) : Bool := c.isAlphanum || c = '_' || c = '-'

/-- A key: bare, or a string of one line. -/
def key? (cs : List Char) : Option (List Char × List Char) :=
  match cs with
  | '"' :: r => basic (cs.length + 1) r
  | '\'' :: r => literal r
  | _ =>
    match cs.takeWhile isKeyChar with
    | [] => none
    | k => some (k, cs.dropWhile isKeyChar)

/-- A boolean or a string. -/
def value? (cs : List Char) : Option (SettingValue × List Char) :=
  match "true".toList.isPrefixOf? cs with
  | some r => some (.flag true, r)
  | none =>
    match "false".toList.isPrefixOf? cs with
    | some r => some (.flag false, r)
    | none => (string? cs).map fun x => (.text (String.ofList x.1), x.2)

/-- A key, an equals sign and a value, with blanks around each. -/
def setting? (cs : List Char) : Option ((String × SettingValue) × List Char) := do
  let (k, r) ← key? cs
  match skipBlanks r with
  | '=' :: r =>
    let (v, r) ← value? (skipBlanks r)
    return ((String.ofList k, v), r)
  | _ => none

/-- The settings of the lines of a text. -/
def settings? (bound : Nat) (cs : List Char) : Option (List (String × SettingValue)) :=
  match bound with
  | 0 => none
  | bound + 1 =>
    if cs = [] then some []
    else
      match endOfLine? cs with
      | some r => settings? bound r
      | none => do
        let (s, r) ← setting? (skipBlanks cs)
        return s :: (← settings? bound (← endOfLine? r))

/-- The **settings of a document**, if it is a flat one. A mark of the byte order in front does not
count. -/
def read? (text : List Char) : Option (List (String × SettingValue)) :=
  let body := match text with
    | '\uFEFF' :: r => r
    | _ => text
  settings? (body.length + 1) body

end Toml

end NativeBuild
