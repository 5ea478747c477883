/-!
# Lines

A text is cut into lines at line feeds. The last line needs no line feed, and a line feed at the
very end opens no further line, so `lines` of the empty text is empty and the number of lines is the
number of line feeds, plus one for an unfinished last line.

A carriage return before a line feed stays on its line: whoever reads lines here trims them first.
-/

namespace NativeBuild.Text

/-- The lines of a text, without their line feeds. -/
def lines : List Char → List (List Char)
  | [] => []
  | c :: r =>
    if c = '\n' then [] :: lines r
    else
      match lines r with
      | [] => [[c]]
      | l :: ls => (c :: l) :: ls

/-- Lines put together again, each ended by a line feed. -/
def unlines (ls : List (List Char)) : List Char := ls.flatMap (· ++ ['\n'])

end NativeBuild.Text
