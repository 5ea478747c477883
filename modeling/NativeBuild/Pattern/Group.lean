import NativeBuild.Pattern.Escape

/-!
# What a parenthesis opens

Between a parenthesis and the content of its group stand the name of the group or letters that
change the mode in which the group is read. Where letters are all there is in the parentheses, they
are no group but change the mode from there on. The readers here begin after the parenthesis. Groups
have numbers, by the order in which they are opened, and names, each of which may be given once; a
group that letters open has neither. To look ahead or behind is not offered.
-/

namespace NativeBuild.Pattern

/-- What the reading of a pattern carries along. -/
structure State where
  mode : Mode
  /-- The names that groups have. -/
  names : List String
  /-- The number of groups. -/
  groups : Nat

/-- The state before anything is read. -/
def State.initial : State := ⟨.initial, [], 0⟩

/-- What a parenthesis opens. -/
inductive Opening where
  /-- A group, which has a number or not and is read in the given state. -/
  | group (number : Option Nat) (s : State)
  /-- Nothing: it only changed the mode. -/
  | settings (m : Mode)

/-- The letters that change the mode of a group, up to the `:` or `)` that ends them, which is given
back with what is left. No letter and no dash may occur twice, the dash may not be last, and letters
alone need at least one. -/
def modeLetters? (m : Mode) (on : Bool) (seen : List Char) :
    List Char → Option (Mode × Char × List Char)
  | [] => none
  | c :: r =>
    if c = ':' ∨ c = ')' then
      if seen.head? = some '-' ∨ (c = ')' ∧ seen = []) then none else some (m, c, r)
    else if c ∈ seen then none
    else if c = '-' then modeLetters? m false (c :: seen) r
    else
      match m.set? on c with
      | some m' => modeLetters? m' on (c :: seen) r
      | none => none

/-- May a character begin the name of a group? -/
def beginsName (c : Char) : Bool :=
  c = '_' || Unicode.alphabetic.contains c || Unicode.laterAlphabetic.contains c

/-- May a character stand further on in the name of a group? -/
def continuesName (c : Char) : Bool :=
  beginsName c || c = '.' || c = '[' || c = ']' ||
    (Unicode.inCategories ["Nd", "Nl", "No"]).contains c || Unicode.laterDigits.contains c

/-- The name of a group up to `>`, if no group has it yet. -/
def groupName? (names : List String) (cs : List Char) : Option (String × List Char) :=
  match cs.span (· != '>') with
  | (c :: r, '>' :: rest) =>
    let name := String.ofList (c :: r)
    if beginsName c && r.all continuesName && name ∉ names then some (name, rest) else none
  | _ => none

namespace State

/-- A numbered group that is opened in a state. -/
def opened (s : State) : Opening := .group (some (s.groups + 1)) { s with groups := s.groups + 1 }

/-- A numbered group with a name. -/
def openedNamed? (s : State) (cs : List Char) : Option (Opening × List Char) :=
  (groupName? s.names cs).map fun x => (opened { s with names := x.1 :: s.names }, x.2)

/-- Reads what stands **between a parenthesis and the content** of its group. -/
def opening? (s : State) (cs : List Char) : Option (Opening × List Char) :=
  match s.mode.skip cs with
  | '?' :: '=' :: _ | '?' :: '!' :: _ => none
  | '?' :: '<' :: '=' :: _ | '?' :: '<' :: '!' :: _ => none
  | '?' :: 'P' :: '<' :: r => s.openedNamed? r
  | '?' :: '<' :: r => s.openedNamed? r
  | '?' :: r =>
    (modeLetters? s.mode true [] r).map fun x =>
      if x.2.1 = ':' then (.group none { s with mode := x.1 }, x.2.2) else (.settings x.1, x.2.2)
  | r => some (s.opened, r)

end State

end NativeBuild.Pattern
