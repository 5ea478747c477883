/-!
# JSON values

A JSON value as it is read or written. Three things are kept that a plain data type would lose,
because the ways to read and to write a value depend on them: the fields of an object are a list, in
order and with repetitions; a number is the text that spells it; and a string may stand for no text.
The last is so in two cases. What is read may spell half of a surrogate pair, and what is to be
written may be bytes that are not UTF-8.

`Json.record?` reads a value as a record with named fields, and `Json.word?` as one word of a
choice.
-/

namespace NativeBuild

/-- A **JSON value**. A string is `none` when there is no text that it stands for. -/
inductive Json where
  | null
  | bool (b : Bool)
  | number (spelling : List Char)
  | string (text : Option String)
  | array (items : List Json)
  | object (fields : List (Option String × Json))
  deriving Inhabited

namespace Json

/-- The string of a text. -/
def ofText (s : String) : Json := .string (some s)

/-- The array of texts. -/
def ofTexts (ss : List String) : Json := .array (ss.map ofText)

/-- The object with fields of given names. -/
def ofFields (fields : List (String × Json)) : Json :=
  .object (fields.map fun x => (some x.1, x.2))

/-- The text of a string. -/
def text? : Json → Option String
  | .string s => s
  | _ => none

/-- The items of an array. -/
def items? : Json → Option (List Json)
  | .array items => some items
  | _ => none

/-- The texts of an array of strings. -/
def texts? (j : Json) : Option (List String) := do (← j.items?).mapM text?

/-- The word that a value chooses: the text of a string, or the only field of an object with nothing
in it. -/
def word? : Json → Option String
  | .string s => s
  | .object [(some s, .null)] => some s
  | _ => none

/-- The values of named fields, in the order of the names; a field that is missing is `none`. An
object may have other fields, but no name may be no text and none of `names` may occur twice. An
array gives the fields by position, and those that it is too short for are missing. -/
def record? (names : List String) : Json → Option (List (Option Json))
  | .object fields =>
    if fields.all (·.1.isSome) ∧
        ((fields.filterMap Prod.fst).filter (· ∈ names)).Nodup then
      some (names.map fun n => (fields.find? fun x => x.1 = some n).map Prod.snd)
    else none
  | .array items =>
    if items.length ≤ names.length then
      some (items.map some ++ List.replicate (names.length - items.length) none)
    else none
  | _ => none

end Json

end NativeBuild
