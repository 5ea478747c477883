import NativeBuild.Text.Runs

/-!
# Blank characters, trimming and words

Source comments, flags and names are cut at blanks, and a blank is any character of the Unicode
property `White_Space`, not only the six of ASCII. `isBlank` is that property as a table of
twenty-five characters. Everything else here is cutting at it:

* `trimStart`, `trimEnd`, `trim` remove blanks from the ends of a text and leave the inside alone;
* `words` lists the maximal runs of characters that are not blank.

A text is a `List Char` here, so that every function is a recursion on its characters.
-/

namespace NativeBuild.Text

/-- **White space**: the characters with the Unicode property `White_Space`. -/
def isBlank (c : Char) : Bool :=
  let n := c.toNat
  (9 ≤ n && n ≤ 13) || n == 0x20 || n == 0x85 || n == 0xA0 || n == 0x1680 ||
    (0x2000 ≤ n && n ≤ 0x200A) || n == 0x2028 || n == 0x2029 || n == 0x202F ||
    n == 0x205F || n == 0x3000

/-- A text without the blanks it begins with. -/
def trimStart (cs : List Char) : List Char := cs.dropWhile isBlank

/-- A text without the blanks it ends with. -/
def trimEnd : List Char → List Char
  | [] => []
  | c :: r =>
    match trimEnd r with
    | [] => if isBlank c then [] else [c]
    | d :: t => c :: d :: t

/-- A text without the blanks at either end. -/
def trim (cs : List Char) : List Char := trimEnd (trimStart cs)

/-- The maximal runs of characters that are not blank, in order. -/
def words (cs : List Char) : List (List Char) := runs isBlank cs

/-- Words with one space between neighbours. -/
def unwords : List (List Char) → List Char
  | [] => []
  | [w] => w
  | w :: v :: ws => w ++ ' ' :: unwords (v :: ws)

end NativeBuild.Text
