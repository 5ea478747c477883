import NativeBuild.Pattern.CharSet

/-!
# Patterns

A pattern describes texts. It is built from characters, sets of characters, conditions on places,
sequence, choice and repetition.
-/

namespace NativeBuild

namespace Pattern

/-- A **condition on a place** in a text. -/
inductive Look where
  | textStart
  | textEnd
  /-- After a line feed or at the start; with `cr`, a carriage return and the pair of both break
  lines too. -/
  | lineStart (cr : Bool)
  /-- Before a line feed or at the end; with `cr` as above. -/
  | lineEnd (cr : Bool)
  /-- Between a word character and another one, or none. -/
  | wordBoundary (unicode : Bool)
  | notWordBoundary (unicode : Bool)
  /-- Before the first character of a word. -/
  | wordStart (unicode : Bool)
  /-- After the last character of a word. -/
  | wordEnd (unicode : Bool)
  /-- After no word character. -/
  | wordStartHalf (unicode : Bool)
  /-- Before no word character. -/
  | wordEndHalf (unicode : Bool)
  deriving DecidableEq, Repr

/-- Is a character part of words? -/
def isWordChar (unicode : Bool) (c : Char) : Bool :=
  if unicode then Unicode.wordChars.contains c else CharSet.asciiWord.contains c

/-- Does a condition hold between the character before a place and the one after it? -/
def Look.holds (l : Look) (before after : Option Char) : Bool :=
  let inWord := fun (unicode : Bool) (c : Option Char) => (c.map (isWordChar unicode)).getD false
  match l with
  | textStart => before.isNone
  | textEnd => after.isNone
  | lineStart false => before.isNone || before = some '\n'
  | lineStart true =>
    before.isNone || before = some '\n' || (before = some '\r' && after != some '\n')
  | lineEnd false => after.isNone || after = some '\n'
  | lineEnd true =>
    after.isNone || after = some '\r' || (after = some '\n' && before != some '\r')
  | wordBoundary u => inWord u before != inWord u after
  | notWordBoundary u => inWord u before == inWord u after
  | wordStart u => !inWord u before && inWord u after
  | wordEnd u => inWord u before && !inWord u after
  | wordStartHalf u => !inWord u before
  | wordEndHalf u => !inWord u after

end Pattern

/-- A **pattern**. -/
inductive Pattern where
  /-- The empty text. -/
  | empty
  /-- One text alone. -/
  | literal (cs : List Char)
  /-- One character of a set. -/
  | set (s : Pattern.CharSet)
  /-- The empty text at a place of a kind. -/
  | look (l : Pattern.Look)
  /-- From `least` to `most` times, or any number from `least` on. Whether few rounds are preferred
  makes no difference to whether a text matches. -/
  | repeated (p : Pattern) (least : Nat) (most : Option Nat) (few : Bool)
  /-- A numbered group. It describes what its content does. -/
  | group (number : Nat) (p : Pattern)
  | sequence (ps : List Pattern)
  | choice (ps : List Pattern)
  deriving Inhabited

end NativeBuild
