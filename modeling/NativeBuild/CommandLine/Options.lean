/-!
# Options on a command line

The syntax of arguments. An option has a word, written after two dashes, and may have a letter,
written after one; letters can be written together. A value follows as the next argument, or in the
same one: after an equals sign, or right behind the letter. An argument that begins with a dash is
never a value that follows, and after `--` there are only operands. An option that is no list can be
given once.

Operands are not empty.

A command line has levels: the options in front of the name of a command, and those behind it.
`Level.read` reads one level and stops at the name of a command.
-/

namespace NativeBuild.CommandLine

/-- An **option** of a level. -/
structure OptionSpec where
  letter : Option Char
  word : String
  takesValue : Bool
  /-- Whether it can be given more than once. -/
  repeats : Bool
  /-- Whether its value can be empty. -/
  admitsEmpty : Bool
  deriving DecidableEq, Repr

/-- Why reading stops before its end. -/
inductive Halt where
  /-- Help was asked for. -/
  | help
  /-- The version was asked for. -/
  | version
  /-- The arguments make no sense. -/
  | usage
  deriving DecidableEq, Repr

/-- A **level** of the command line. -/
structure Level where
  options : List OptionSpec
  commands : List String
  /-- How many operands there may be. -/
  operands : Nat
  /-- Whether the version can be asked for. -/
  hasVersion : Bool

/-- What was given on a level: options by their words with their values, and operands. -/
structure Given where
  options : List (String × String)
  operands : List String
  deriving DecidableEq, Repr

namespace Given

/-- Nothing. -/
def nothing : Given := ⟨[], []⟩

/-- Was an option given? -/
def has (g : Given) (word : String) : Bool := g.options.any (·.1 = word)

/-- The value of an option that was given. -/
def value? (g : Given) (word : String) : Option String :=
  (g.options.find? (·.1 = word)).map Prod.snd

/-- All values of an option. -/
def values (g : Given) (word : String) : List String :=
  (g.options.filter (·.1 = word)).map Prod.snd

/-- Gives an option. -/
def add (g : Given) (o : OptionSpec) (value : String) : Except Halt Given :=
  if (!o.repeats && g.has o.word) || (!o.admitsEmpty && o.takesValue && value = "") then
    .error .usage
  else .ok { g with options := g.options ++ [(o.word, value)] }

end Given

/-- A text without an equals sign in front. -/
def dropEquals : List Char → List Char
  | '=' :: r => r
  | r => r

namespace Level

/-- Reads letters that are written together. The last one may be that of an option whose value is
still to come. -/
def readLetters (level : Level) (g : Given) : List Char → Except Halt (Given × Option OptionSpec)
  | [] => .ok (g, none)
  | c :: r =>
    match level.options.find? (·.letter = some c) with
    | some o =>
      if o.takesValue then
        if r = [] then .ok (g, some o)
        else do return (← g.add o (String.ofList (dropEquals r)), none)
      else do readLetters level (← g.add o "") r
    | none =>
      .error (if c = 'h' then .help else if c = 'V' ∧ level.hasVersion = true then .version
        else .usage)

/-- Reads the word of an option, and its value if that stands in the same argument. -/
def readWord (level : Level) (g : Given) (cs : List Char) :
    Except Halt (Given × Option OptionSpec) :=
  let word := String.ofList (cs.takeWhile (· != '='))
  match level.options.find? (·.word = word), cs.dropWhile (· != '=') with
  | some o, [] => if o.takesValue then .ok (g, some o) else do return (← g.add o "", none)
  | some o, _ :: value =>
    if o.takesValue then do return (← g.add o (String.ofList value), none) else .error .usage
  | none, [] =>
    .error
      (if word = "help" then .help
        else if word = "version" ∧ level.hasVersion = true then .version else .usage)
  | none, _ => .error .usage

/-- Does an argument begin with a dash that means something? -/
def isDashed (arg : String) : Bool :=
  match arg.toList with
  | '-' :: _ :: _ => true
  | _ => false

/-- Reads the arguments of a level, up to the name of a command, which is given back with what
follows it. `waiting` is an option whose value is to come next, and with `plain` every argument is
an operand. -/
def readFrom (level : Level) (plain : Bool) (waiting : Option OptionSpec) (g : Given) :
    List String → Except Halt (Given × Option (String × List String))
  | [] => if waiting.isSome then .error .usage else .ok (g, none)
  | arg :: rest =>
    match waiting with
    | some o =>
      if isDashed arg then .error .usage
      else do readFrom level plain none (← g.add o arg) rest
    | none =>
      if !plain && arg = "--" then readFrom level true none g rest
      else if !plain && isDashed arg then
        match arg.toList with
        | '-' :: '-' :: word => do
          let (g, waiting) ← level.readWord g word
          readFrom level plain waiting g rest
        | _ :: letters => do
          let (g, waiting) ← level.readLetters g letters
          readFrom level plain waiting g rest
        | [] => .error .usage
      else if !plain && arg ∈ level.commands then .ok (g, some (arg, rest))
      else if g.operands.length < level.operands ∧ arg ≠ "" then
        readFrom level plain none { g with operands := g.operands ++ [arg] } rest
      else .error .usage

/-- **Reads a level.** -/
def read (level : Level) (args : List String) :
    Except Halt (Given × Option (String × List String)) :=
  level.readFrom false none .nothing args

end Level

end NativeBuild.CommandLine
