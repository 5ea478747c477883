import NativeBuild.Unicode.Symbol

/-!
# Where texts are divided

The Unicode properties `Grapheme_Cluster_Break`, `Word_Break` and `Sentence_Break`. Each puts a code
point into one class or none, and the classes are given by other properties and short lists.
-/

namespace NativeBuild.Unicode

/-! ### Units of reading -/

/-- What is drawn onto what stands before it. -/
def clusterExtend : Ranges := graphemeExtend.union emojiModifier

/-- Whatever is neither drawn nor joined. -/
def clusterControl : Ranges :=
  (Ranges.ofList (inCategories ["Cc", "Cf", "Zl", "Zp"] ++
    (inCategories ["Cn"]).inter defaultIgnorable)).diff
    (Ranges.ofList ([(0xA, 0xA), (0xD, 0xD), (0x200C, 0x200D)] ++ prependedConcatenationMark ++
      clusterExtend))

/-- The code points of a class of units of reading. -/
def clusterClass? (name : String) : Option Ranges :=
  match name with
  | "cr" => some [(0xD, 0xD)]
  | "lf" => some [(0xA, 0xA)]
  | "cn" | "control" => some clusterControl
  | "ex" | "extend" => some clusterExtend
  | "zwj" => some [(0x200D, 0x200D)]
  | "ri" | "regionalindicator" => some regionalIndicator
  | "pp" | "prepend" =>
    some (prependedConcatenationMark.union
      [(0xD4E, 0xD4E), (0x111C2, 0x111C3), (0x113D1, 0x113D1), (0x1193F, 0x1193F),
       (0x11941, 0x11941), (0x11A3A, 0x11A3A), (0x11A84, 0x11A89), (0x11D46, 0x11D46),
       (0x11F02, 0x11F02)])
  | "sm" | "spacingmark" =>
    some (((inCategories ["Mc"]).union [(0xE33, 0xE33), (0xEB3, 0xEB3)]).diff
      (clusterExtend.union
        [(0x102B, 0x102C), (0x1038, 0x1038), (0x1062, 0x1064), (0x1067, 0x106D),
         (0x1083, 0x1083), (0x1087, 0x108C), (0x108F, 0x108F), (0x109A, 0x109C),
         (0x1A61, 0x1A61), (0x1A63, 0x1A64), (0xAA7B, 0xAA7B), (0xAA7D, 0xAA7D),
         (0x11720, 0x11721)]))
  | "l" => some [(0x1100, 0x115F), (0xA960, 0xA97C)]
  | "v" => some [(0x1160, 0x11A7), (0xD7B0, 0xD7C6), (0x16D63, 0x16D63), (0x16D67, 0x16D6A)]
  | "t" => some [(0x11A8, 0x11FF), (0xD7CB, 0xD7FB)]
  | "lv" => some ((List.range 399).map fun i => (0xAC00 + 28 * i, 0xAC00 + 28 * i))
  | "lvt" => some ((List.range 399).map fun i => (0xAC01 + 28 * i, 0xAC1B + 28 * i))
  | _ => none

/-! ### Words -/

/-- What goes with the letter before it. -/
def wordExtend : Ranges :=
  (Ranges.ofList (graphemeExtend ++ inCategories ["Mc"] ++ emojiModifier)).diff [(0x200D, 0x200D)]

/-- Katakana, the signs it shares with Hiragana, and its marks of length. -/
def wordKatakana : Ranges :=
  (inScript "Kana").union [(0x3031, 0x3035), (0x309B, 0x309C), (0x30A0, 0x30A0), (0x30FC, 0x30FC),
    (0xFF70, 0xFF70)]

/-- The letters of Hebrew. -/
def wordHebrew : Ranges := (inScript "Hebr").inter (inCategories ["Lo"])

/-- The scripts that are written without blanks and are divided by their words' meaning. -/
def scriptsWithoutBlanks : List String :=
  ["Thai", "Laoo", "Mymr", "Khmr", "Tale", "Talu", "Lana", "Tavt", "Ahom"]

/-- Signs that are no letters but are inside words like letters. -/
def wordSigns : Ranges :=
  [(0x2C2, 0x2C5), (0x2D2, 0x2D7), (0x2DE, 0x2DF), (0x2E5, 0x2EB), (0x2ED, 0x2ED), (0x2EF, 0x2FF),
   (0x55A, 0x55C), (0x55E, 0x55E), (0x58A, 0x58A), (0x5F3, 0x5F3), (0x70F, 0x70F), (0xA708, 0xA716),
   (0xA720, 0xA721), (0xA789, 0xA78A), (0xAB5B, 0xAB5B)]

/-- The letters of words, in scripts that are written with blanks. -/
def wordLetter : Ranges :=
  (alphabetic.diff
    (Ranges.ofList (ideographic ++ wordKatakana ++ inScript "Hira" ++ wordHebrew ++ wordExtend ++
      scriptsWithoutBlanks.flatMap inScript))).union wordSigns

/-- The marks that are put in front of a number. -/
def numberMark : Ranges := prependedConcatenationMark.diff [(0x70F, 0x70F)]

/-- The code points of a class of parts of words. -/
def wordClass? (name : String) : Option Ranges :=
  match name with
  | "cr" => some [(0xD, 0xD)]
  | "lf" => some [(0xA, 0xA)]
  | "newline" | "nl" => some [(0xB, 0xC), (0x85, 0x85), (0x2028, 0x2029)]
  | "extend" => some wordExtend
  | "zwj" => some [(0x200D, 0x200D)]
  | "format" | "fo" =>
    some ((inCategories ["Cf"]).diff
      (Ranges.ofList ([(0x200B, 0x200D)] ++ prependedConcatenationMark ++ wordExtend)))
  | "katakana" | "ka" => some wordKatakana
  | "hebrewletter" | "hl" => some wordHebrew
  | "aletter" | "le" => some wordLetter
  | "singlequote" | "sq" => some [(0x27, 0x27)]
  | "doublequote" | "dq" => some [(0x22, 0x22)]
  | "midnumlet" | "mb" =>
    some
      [(0x2E, 0x2E), (0x2018, 0x2019), (0x2024, 0x2024), (0xFE52, 0xFE52), (0xFF07, 0xFF07),
       (0xFF0E, 0xFF0E)]
  | "midletter" | "ml" =>
    some
      [(0x3A, 0x3A), (0xB7, 0xB7), (0x387, 0x387), (0x55F, 0x55F), (0x5F4, 0x5F4),
       (0x2027, 0x2027), (0xFE13, 0xFE13), (0xFE55, 0xFE55), (0xFF1A, 0xFF1A)]
  | "midnum" | "mn" =>
    some
      [(0x2C, 0x2C), (0x3B, 0x3B), (0x37E, 0x37E), (0x589, 0x589), (0x60C, 0x60D),
       (0x66C, 0x66C), (0x7F8, 0x7F8), (0x2044, 0x2044), (0xFE50, 0xFE50), (0xFE54, 0xFE54),
       (0xFF0C, 0xFF0C), (0xFF1B, 0xFF1B)]
  | "numeric" | "nu" =>
    some (Ranges.ofList (digits ++ numberMark ++ [(0x66B, 0x66B), (0x19DA, 0x19DA)]))
  | "extendnumlet" | "ex" => some ((inCategories ["Pc"]).union [(0x202F, 0x202F)])
  | "regionalindicator" | "ri" => some regionalIndicator
  | "wsegspace" =>
    some ((inCategories ["Zs"]).diff [(0xA0, 0xA0), (0x2007, 0x2007), (0x202F, 0x202F)])
  | _ => none

/-! ### Sentences -/

/-- What goes with what stands before it. -/
def sentenceExtend : Ranges :=
  Ranges.ofList (graphemeExtend ++ inCategories ["Mc"] ++ [(0x200D, 0x200D)])

/-- Letters in lower case, in scripts where case begins sentences. -/
def sentenceLower : Ranges :=
  lowercase.diff (Ranges.ofList ([(0x10D0, 0x10FA), (0x10FD, 0x10FF)] ++ sentenceExtend))

/-- Letters in upper case, in scripts where case begins sentences. -/
def sentenceUpper : Ranges :=
  (uppercase.union (inCategories ["Lt"])).diff [(0x1C90, 0x1CBA), (0x1CBD, 0x1CBF)]

/-- The ends of sentences and of shortened words. -/
def sentencePoint : Ranges := [(0x2E, 0x2E), (0x2024, 0x2024), (0xFE52, 0xFE52), (0xFF0E, 0xFF0E)]

/-- The code points of a class of parts of sentences. -/
def sentenceClass? (name : String) : Option Ranges :=
  match name with
  | "cr" => some [(0xD, 0xD)]
  | "lf" => some [(0xA, 0xA)]
  | "sep" | "se" => some [(0x85, 0x85), (0x2028, 0x2029)]
  | "extend" | "ex" => some sentenceExtend
  | "format" | "fo" => some ((inCategories ["Cf"]).diff (numberMark.union sentenceExtend))
  | "sp" =>
    some (whiteSpace.diff [(0xA, 0xA), (0xD, 0xD), (0x85, 0x85), (0x2028, 0x2029)])
  | "lower" | "lo" => some sentenceLower
  | "upper" | "up" => some sentenceUpper
  | "oletter" | "le" =>
    some ((alphabetic.diff (Ranges.ofList (sentenceLower ++ sentenceUpper ++ sentenceExtend))).union
      [(0x5F3, 0x5F3)])
  | "numeric" | "nu" =>
    some (Ranges.ofList (digits ++ numberMark ++ [(0x66B, 0x66C), (0x19DA, 0x19DA)]))
  | "aterm" | "at" => some sentencePoint
  | "sterm" | "st" => some (sentenceTerminal.diff sentencePoint)
  | "scontinue" | "sc" =>
    some
      [(0x2C, 0x2D), (0x3A, 0x3B), (0x37E, 0x37E), (0x55D, 0x55D), (0x60C, 0x60D),
       (0x7F8, 0x7F8), (0x1802, 0x1802), (0x1808, 0x1808), (0x2013, 0x2014), (0x3001, 0x3001),
       (0xFE10, 0xFE11), (0xFE13, 0xFE14), (0xFE31, 0xFE32), (0xFE50, 0xFE51), (0xFE54, 0xFE55),
       (0xFE58, 0xFE58), (0xFE63, 0xFE63), (0xFF0C, 0xFF0D), (0xFF1A, 0xFF1B), (0xFF64, 0xFF64)]
  | "close" | "cl" =>
    some ((inCategories ["Ps", "Pe", "Pi", "Pf"]).union
      [(0x22, 0x22), (0x27, 0x27), (0x275B, 0x2760), (0x2E00, 0x2E01), (0x2E06, 0x2E08),
       (0x2E0B, 0x2E0B), (0x1F676, 0x1F678)])
  | _ => none

end NativeBuild.Unicode
