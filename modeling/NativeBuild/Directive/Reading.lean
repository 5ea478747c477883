import NativeBuild.Error
import NativeBuild.Text.Lines

/-!
# Reading directives

Directives stand in the comments that a source file begins with. A file is read line by line, each
line without the blanks around it, until the first line of code:

* a line is a **comment** if it begins with `//` or `/*`, or if a block that was opened on a line
  before is still open;
* a blank line, and a `#` line that includes and imports nothing, is **neutral**;
* everything else is **code**, and ends the reading.

A comment line declares a directive if the first `@word:` in it has a keyword for its word. The
value is what follows on the line, without the `*/` that may close the comment there.

`commentLines` is the part of a text that is read, `Directive.ofLine?` reads one line of it, and
`DirectiveSet.ofText` puts the two together: it is the list of all declarations, unless two of them
are of the same kind.
-/

namespace NativeBuild

/-- What a line is to a reader who looks for directives. -/
inductive LineRole where
  /-- It may declare a directive; the flag says whether a block is open after it. -/
  | comment (inBlock : Bool)
  /-- It says nothing about directives and lets others follow. -/
  | neutral
  /-- No directive stands on this line or after it. -/
  | code
  deriving DecidableEq, Repr

/-- A `#` line that includes and imports nothing. -/
def isPreamble (line : List Char) : Bool :=
  match line with
  | '#' :: rest =>
    let word := Text.trimStart rest
    !("include".toList.isPrefixOf word || "import".toList.isPrefixOf word)
  | _ => false

/-- Is a block that is open at the beginning of a text still open at its end? -/
def staysOpen (text : List Char) : Bool := !Text.occursIn ['*', '/'] text

/-- The role of a trimmed line; `inBlock` says whether a block is open before it. -/
def LineRole.of (inBlock : Bool) (line : List Char) : LineRole :=
  if inBlock then .comment (staysOpen line)
  -- what stands behind the end of a block on its line belongs to the comment too
  else
    match ['/', '*'].isPrefixOf? line with
    | some rest => .comment (staysOpen rest)
    | none =>
      if ['/', '/'].isPrefixOf line then .comment false
      else if line = [] ∨ isPreamble line = true then .neutral
      else .code

/-- The comment lines of a text before its code, trimmed, with their numbers; `n` is the number of
the first of the given lines. -/
def commentLinesFrom (inBlock : Bool) (n : Nat) : List (List Char) → List (Nat × List Char)
  | [] => []
  | raw :: rest =>
    match LineRole.of inBlock (Text.trim raw) with
    | .comment inBlock' => (n, Text.trim raw) :: commentLinesFrom inBlock' (n + 1) rest
    | .neutral => commentLinesFrom inBlock (n + 1) rest
    | .code => []

/-- The comment lines of a text before its code; lines count from one. -/
def commentLines (text : List Char) : List (Nat × List Char) :=
  commentLinesFrom false 1 (Text.lines text)

/-! ### One line -/

/-- The characters of which the word of a declaration consists. -/
def isWordChar (c : Char) : Bool := c.isAlpha || c = '_'

/-- The first `@word:` of a line: its word, and what follows it. -/
def declaration? : List Char → Option (List Char × List Char)
  | [] => none
  | c :: r =>
    if c = '@' then
      match r.takeWhile isWordChar, r.dropWhile isWordChar with
      | a :: word, ':' :: rest => some (a :: word, rest)
      -- no word, or no colon behind it: there may be another `@` further on
      | _, _ => declaration? r
    else declaration? r

/-- The words of a value: the text after the colon, without a `*/` at its end. -/
def valueWords (rest : List Char) : List (List Char) :=
  let value := Text.trim rest
  Text.words ((['*', '/'].isSuffixOf? value).getD value)

/-- The directive that a comment line declares. -/
def Directive.ofLine? (line : List Char) : Option Directive :=
  match declaration? line with
  | none => none
  | some (word, rest) => (DirectiveKind.ofKeyword? word).map fun k => .ofWords k (valueWords rest)

/-! ### The whole text -/

/-- A directive that is declared again: the line, and what it is about. -/
structure Redeclaration where
  line : Nat
  kind : DirectiveKind
  deriving DecidableEq, Repr

/-- All declarations before the code, with the numbers of their lines. -/
def declarations (text : List Char) : List (Nat × Directive) :=
  (commentLines text).filterMap fun x => (Directive.ofLine? x.2).map fun d => (x.1, d)

namespace DirectiveSet

/-- Adds declarations in turn; the first one of a kind that is there already is refused. -/
def addAll (s : DirectiveSet) : List (Nat × Directive) → Except Redeclaration DirectiveSet
  | [] => .ok s
  | (n, d) :: rest =>
    if h : s.get? d.kind = none then addAll (s.add d h) rest
    else .error ⟨n, d.kind⟩

/-- The **directives of a text**. -/
def ofText (text : List Char) : Except Redeclaration DirectiveSet :=
  empty.addAll (declarations text)

/-- The directives of the text of a file at a path. -/
def read (path : Path) (text : List Char) : Except BuildError DirectiveSet :=
  match ofText text with
  | .ok s => .ok s
  | .error r => .error (.duplicateDirective path r.line r.kind)

end DirectiveSet

end NativeBuild
