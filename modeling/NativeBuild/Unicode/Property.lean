import NativeBuild.Unicode.Age
import NativeBuild.Unicode.Boundary
import NativeBuild.Unicode.Case

/-!
# Properties by name

What a name of a property stands for, and a name of a property with one of a value. Names are
compared without case, blanks, dashes and underscores and without `is` in front; `plainName` brings
them into that form.

A name alone may be that of a property that code points have or have not, of a category, or of a
script, and is looked up in that order.
-/

namespace NativeBuild.Unicode

/-- The name of a property or of its value, made comparable. What is left of `isc` is not `c`: the
two name different things. -/
def plainName (name : List Char) : String :=
  let plain := fun (cs : List Char) =>
    cs.filter fun c => !(c = ' ' || c = '-' || c = '_' || c.toNat ≥ 0x80)
  match name.map Char.toLower with
  | 'i' :: 's' :: r => if plain r = ['c'] then "isc" else String.ofList (plain r)
  | cs => String.ofList (plain cs)

/-- The code points that have a property. -/
def binaryProperty? (name : String) : Option Ranges :=
  match name with
  | "alphabetic" | "alpha" => some alphabetic
  | "asciihexdigit" | "ahex" => some asciiHexDigit
  | "bidicontrol" | "bidic" => some bidiControl
  | "bidimirrored" | "bidim" => some bidiMirrored
  | "caseignorable" | "ci" =>
    some (Ranges.ofList (inCategories ["Mn", "Me", "Cf", "Lm", "Sk"] ++
      ["ml", "mb", "sq"].flatMap fun c => (wordClass? c).getD []))
  | "cased" => some cased
  | "changeswhencasefolded" | "cwcf" => some changesWhenCasefolded
  | "changeswhencasemapped" | "cwcm" => some changesWhenCasemapped
  | "changeswhenlowercased" | "cwl" => some changesWhenLowercased
  | "changeswhentitlecased" | "cwt" => some changesWhenTitlecased
  | "changeswhenuppercased" | "cwu" => some changesWhenUppercased
  | "dash" => some dash
  | "defaultignorablecodepoint" | "di" => some defaultIgnorable
  | "deprecated" | "dep" => some deprecated
  | "diacritic" | "dia" => some diacritic
  | "emoji" => some emoji
  | "emojicomponent" | "ecomp" => some emojiComponent
  | "emojimodifier" | "emod" => some emojiModifier
  | "emojimodifierbase" | "ebase" => some emojiModifierBase
  | "emojipresentation" | "epres" => some emojiPresentation
  | "extendedpictographic" | "extpict" => some extendedPictographic
  | "extender" | "ext" => some extender
  | "graphemebase" | "grbase" => some graphemeBase
  | "graphemeextend" | "grext" => some graphemeExtend
  | "graphemelink" | "grlink" => some graphemeLink
  | "hexdigit" | "hex" => some hexDigit
  | "hyphen" => some hyphen
  | "idcompatmathcontinue" => some compatMathContinue
  | "idcompatmathstart" => some compatMathStart
  | "idcontinue" | "idc" => some idContinue
  | "idsbinaryoperator" | "idsb" => some binaryIdeographOperator
  | "idstart" | "ids" => some idStart
  | "idstrinaryoperator" | "idst" => some trinaryIdeographOperator
  | "idsunaryoperator" | "idsu" => some unaryIdeographOperator
  | "ideographic" | "ideo" => some ideographic
  | "joincontrol" | "joinc" => some joinControl
  | "logicalorderexception" | "loe" => some logicalOrderException
  | "lowercase" | "lower" => some lowercase
  | "math" => some math
  | "modifiercombiningmark" | "mcm" => some modifierCombiningMark
  | "noncharactercodepoint" | "nchar" => some noncharacter
  | "otheralphabetic" | "oalpha" => some otherAlphabetic
  | "otherdefaultignorablecodepoint" | "odi" => some otherDefaultIgnorable
  | "othergraphemeextend" | "ogrext" => some otherGraphemeExtend
  | "otheridcontinue" | "oidc" => some otherIdContinue
  | "otheridstart" | "oids" => some otherIdStart
  | "otherlowercase" | "olower" => some otherLowercase
  | "othermath" | "omath" => some otherMath
  | "otheruppercase" | "oupper" => some otherUppercase
  | "patternsyntax" | "patsyn" => some patternSyntax
  | "patternwhitespace" | "patws" => some patternWhiteSpace
  | "prependedconcatenationmark" | "pcm" => some prependedConcatenationMark
  | "quotationmark" | "qmark" => some quotationMark
  | "radical" => some radical
  | "regionalindicator" | "ri" => some regionalIndicator
  | "sentenceterminal" | "sterm" => some sentenceTerminal
  | "softdotted" | "sd" => some softDotted
  | "terminalpunctuation" | "term" => some terminalPunctuation
  | "unifiedideograph" | "uideo" => some unifiedIdeograph
  | "uppercase" | "upper" => some uppercase
  | "variationselector" | "vs" => some variationSelector
  | "whitespace" | "wspace" | "space" => some whiteSpace
  | "xidcontinue" | "xidc" => some xidContinue
  | "xidstart" | "xids" => some xidStart
  | _ => none

/-- The code points of a category or of a group of categories. -/
def categoryProperty? (name : String) : Option Ranges :=
  match name with
  | "any" => some Ranges.everything
  | "ascii" => some [(0, 0x7F)]
  | "assigned" => some (Ranges.everything.diff (inCategories ["Cn"]))
  | _ => (categoriesNamed? name).map inCategories

/-- The code points that a **name** stands for. -/
def propertyNamed? (name : List Char) : Option Ranges :=
  let name := plainName name
  (binaryProperty? name).orElse fun _ =>
    (categoryProperty? name).orElse fun _ => (scriptNamed? name).map inScript

/-- The code points that a **name of a property and one of a value** stand for. -/
def propertyWithValue? (property value : List Char) : Option Ranges :=
  let value := plainName value
  match plainName property with
  | "generalcategory" | "gc" => categoryProperty? value
  | "script" | "sc" => (scriptNamed? value).map inScript
  | "scriptextensions" | "scx" => (scriptNamed? value).map usedWithScript
  | "age" => assignedIn? value
  | "graphemeclusterbreak" | "gcb" => clusterClass? value
  | "wordbreak" | "wb" => wordClass? value
  | "sentencebreak" | "sb" => sentenceClass? value
  | _ => none

end NativeBuild.Unicode
