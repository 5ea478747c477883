import NativeBuild.Pattern.CharSet
import NativeBuild.Text.Blank

/-!
# Modes of reading

How a part of a pattern is to be read: whether case counts, what a dot and a line are, whether sets
go beyond ASCII, and whether blanks and comments are skipped. In the verbose mode they are skipped
nearly everywhere, also between the digits of a number; `Mode.span` and `Mode.take?` are the readers
that do so, and `Mode.skip_length_le` says that skipping never makes a text longer.
-/

namespace NativeBuild.Pattern

/-- How a part of a pattern is to be read. -/
structure Mode where
  /-- Case makes no difference. -/
  caseless : Bool
  /-- `^` and `$` are about lines. -/
  multiline : Bool
  /-- `.` is any character. -/
  dotAll : Bool
  /-- Sets go beyond ASCII. -/
  unicode : Bool
  /-- Blanks and comments are skipped. -/
  verbose : Bool
  /-- Carriage returns break lines too. -/
  crlf : Bool
  /-- A repetition prefers few rounds, and one with a question mark many. -/
  few : Bool
  deriving DecidableEq, Repr

namespace Mode

/-- How a pattern is read at its beginning. -/
def initial : Mode := ⟨false, false, false, true, false, false, false⟩

/-- The mode after setting or clearing what a letter stands for. -/
def set? (m : Mode) (on : Bool) (letter : Char) : Option Mode :=
  match letter with
  | 'i' => some { m with caseless := on }
  | 'm' => some { m with multiline := on }
  | 's' => some { m with dotAll := on }
  | 'u' => some { m with unicode := on }
  | 'x' => some { m with verbose := on }
  | 'R' => some { m with crlf := on }
  | 'U' => some { m with few := on }
  | _ => none

end Mode

/-! ### Skipping -/

/-- A text without the blanks and comments in front. -/
def skipComments (inComment : Bool) : List Char → List Char
  | [] => []
  | c :: r =>
    if inComment then skipComments (c != '\n') r
    else if Text.isBlank c then skipComments false r
    else if c = '#' then skipComments true r
    else c :: r

theorem skipComments_length_le (inComment : Bool) (cs : List Char) :
    (skipComments inComment cs).length ≤ cs.length := by
  induction cs generalizing inComment with
  | nil => simp [skipComments]
  | cons c r ih =>
    simp only [skipComments]
    split
    · exact Nat.le_succ_of_le (ih _)
    · split
      · exact Nat.le_succ_of_le (ih _)
      · split
        · exact Nat.le_succ_of_le (ih _)
        · exact Nat.le_refl _

namespace Mode

/-- What is left after what a mode skips. -/
def skip (m : Mode) (cs : List Char) : List Char := if m.verbose then skipComments false cs else cs

theorem skip_length_le (m : Mode) (cs : List Char) : (m.skip cs).length ≤ cs.length := by
  unfold skip
  split
  · exact skipComments_length_le false cs
  · exact Nat.le_refl _

/-- The character after the next one, for telling apart a dash in a range from one that stands for
itself. Of a comment only the sign is passed over, and if there are blanks alone the first of them
counts. -/
def glance (m : Mode) (cs : List Char) : Option Char :=
  if m.verbose then
    let rest := match cs.dropWhile Text.isBlank with
      | '#' :: r => r.dropWhile Text.isBlank
      | r => r
    rest.head?.or cs.head?
  else cs.head?

/-- The characters in front that satisfy a condition, and what is left after them. -/
def span (m : Mode) (p : Char → Bool) (cs : List Char) : List Char × List Char :=
  match h : m.skip cs with
  | [] => ([], [])
  | c :: r =>
    have : r.length < cs.length := by
      have := m.skip_length_le cs
      rwa [h] at this
    if p c then
      let x := m.span p r
      (c :: x.1, x.2)
    else ([], c :: r)
termination_by cs.length

/-- The next `n` characters, and what is left after them. -/
def take? (m : Mode) : Nat → List Char → Option (List Char × List Char)
  | 0, cs => some ([], cs)
  | n + 1, cs =>
    match m.skip cs with
    | [] => none
    | c :: r => (m.take? n r).map fun x => (c :: x.1, x.2)

/-! ### Sets by mode -/

/-- A set, closed under differences of case if the mode asks for it. -/
def fold (m : Mode) (s : CharSet) : CharSet :=
  if m.caseless then if m.unicode then s.caseless else s.asciiCaseless else s

/-- A set, unless the mode keeps to ASCII and the set does not. -/
def admit? (m : Mode) (s : CharSet) : Option CharSet :=
  if m.unicode || s.isAscii then some s else none

/-- The set of what a character stands for. -/
def charSet (m : Mode) (c : Char) : CharSet :=
  if m.caseless then
    if m.unicode then Unicode.Ranges.ofList ((Unicode.caseVariants c.toNat).map fun n => (n, n))
    else if c.toNat < 0x80 then (CharSet.single c).asciiCaseless
    else .single c
  else .single c

/-- The set that a dot stands for. -/
def dot? (m : Mode) : Option CharSet :=
  if !m.unicode then none
  else if m.dotAll then some Unicode.Ranges.everything
  else if m.crlf then some (CharSet.compl [(0x0A, 0x0A), (0x0D, 0x0D)])
  else some (CharSet.compl [(0x0A, 0x0A)])

end Mode

end NativeBuild.Pattern
