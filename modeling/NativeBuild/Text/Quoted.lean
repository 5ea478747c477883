import NativeBuild.Text.Invisible

/-!
# Quoted text

Messages and listings show a text between double quotes, so that blanks at its ends and characters
that cannot be seen are visible. A quote and a backslash are escaped by a backslash, the four usual
controls have a letter, and every other invisible character is given by its number in hexadecimal.
-/

namespace NativeBuild.Text.Quoted

/-- A character as it stands inside quotes. -/
def char (c : Char) : List Char :=
  if c = '"' then ['\\', '"']
  else if c = '\\' then ['\\', '\\']
  else if c = '\n' then ['\\', 'n']
  else if c = '\r' then ['\\', 'r']
  else if c = '\t' then ['\\', 't']
  else if c = '\x00' then ['\\', '0']
  else if isInvisible c then ['\\', 'u', '\x7b'] ++ Nat.toDigits 16 c.toNat ++ ['\x7d']
  else [c]

/-- A text between quotes. -/
def text (s : String) : String :=
  String.ofList ('"' :: s.toList.flatMap char ++ ['"'])

/-- Quoted texts between brackets, separated by commas. -/
def list (ss : List String) : String :=
  "[" ++ ", ".intercalate (ss.map text) ++ "]"

end NativeBuild.Text.Quoted
