import NativeBuild.Json.Basic

/-!
# Writing JSON

A value is written in one of two layouts: in one line without blanks, or with each item and field on
a line of its own, indented by two spaces for each level. An empty array or object is a pair of
brackets in both.

In a string the quote and the backslash are escaped by a backslash, five controls have a letter, the
other controls are given by number, and every other character stands for itself.

What is written is a `Draft`: a text, and whether it is complete. Writing stops at a string that
stands for no text, and the draft then holds what came before it.
-/

namespace NativeBuild

namespace Json

/-- A text that is being written; when it is not **complete**, nothing can follow it. -/
structure Draft where
  text : List Char
  complete : Bool
  deriving DecidableEq, Repr

namespace Draft

/-- A complete text. -/
def of (cs : List Char) : Draft := ⟨cs, true⟩

/-- One draft after another. -/
def append (a b : Draft) : Draft :=
  if a.complete then ⟨a.text ++ b.text, b.complete⟩ else a

instance : Append Draft := ⟨append⟩

@[simp] theorem of_append_of (a b : List Char) : of a ++ of b = of (a ++ b) := rfl

end Draft

/-- How the parts of arrays and objects are set apart. -/
inductive Layout where
  /-- In one line. -/
  | compact
  /-- Each part on a line of its own. -/
  | indented
  deriving DecidableEq, Repr

namespace Layout

/-- What stands before a part at a depth, and before the bracket that closes the level above. -/
def gap (l : Layout) (depth : Nat) : List Char :=
  match l with
  | compact => []
  | indented => '\n' :: List.replicate (2 * depth) ' '

/-- What stands between the name of a field and its value. -/
def colon : Layout → List Char
  | compact => [':']
  | indented => [':', ' ']

end Layout

/-- A character as it stands in a string. -/
def escape (c : Char) : List Char :=
  if c = '"' then ['\\', '"']
  else if c = '\\' then ['\\', '\\']
  else if c = '\x08' then ['\\', 'b']
  else if c = '\x0c' then ['\\', 'f']
  else if c = '\n' then ['\\', 'n']
  else if c = '\r' then ['\\', 'r']
  else if c = '\t' then ['\\', 't']
  else if c.toNat < 0x20 then
    ['\\', 'u', '0', '0', Nat.digitChar (c.toNat / 16), Nat.digitChar (c.toNat % 16)]
  else [c]

/-- A text between quotes. -/
def quote (s : String) : List Char := '"' :: s.toList.flatMap escape ++ ['"']

/-- A string; where there is no text nothing can be written. -/
def renderString : Option String → Draft
  | some s => .of (quote s)
  | none => ⟨[], false⟩

mutual

/-- A value, written at a depth. -/
def render (l : Layout) (depth : Nat) : Json → Draft
  | .null => .of "null".toList
  | .bool true => .of "true".toList
  | .bool false => .of "false".toList
  | .number spelling => .of spelling
  | .string s => renderString s
  | .array [] => .of ['[', ']']
  | .array (j :: r) =>
    .of ('[' :: l.gap (depth + 1)) ++ render l (depth + 1) j ++ renderItems l depth r
  | .object [] => .of ['\x7b', '\x7d']
  | .object ((k, v) :: r) =>
    .of ('\x7b' :: l.gap (depth + 1)) ++ renderString k ++ .of l.colon ++
      render l (depth + 1) v ++ renderFields l depth r

/-- The items of an array after the first, and its end. -/
def renderItems (l : Layout) (depth : Nat) : List Json → Draft
  | [] => .of (l.gap depth ++ [']'])
  | j :: r => .of (',' :: l.gap (depth + 1)) ++ render l (depth + 1) j ++ renderItems l depth r

/-- The fields of an object after the first, and its end. -/
def renderFields (l : Layout) (depth : Nat) : List (Option String × Json) → Draft
  | [] => .of (l.gap depth ++ ['\x7d'])
  | (k, v) :: r =>
    .of (',' :: l.gap (depth + 1)) ++ renderString k ++ .of l.colon ++
      render l (depth + 1) v ++ renderFields l depth r

end

/-- A value in one line. -/
def compact (j : Json) : Draft := j.render .compact 0

/-- A value with each part on a line of its own. -/
def pretty (j : Json) : Draft := j.render .indented 0

end Json

end NativeBuild
