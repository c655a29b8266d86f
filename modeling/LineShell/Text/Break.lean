import LineShell.Text.Cluster
import LineShell.Text.Property
import LineShell.Text.Script

/-!
# Where clusters, words and sentences end

The Unicode standard divides texts into clusters, words and sentences by classes of characters.  The
classes are given here by their names, in the edition that patterns follow.
-/

namespace LineShell.Text

/-- Characters that are numbers for the division of texts: decimal digits and a few signs that go
with them. -/
def breakNumeric : CodePointSet :=
  .unions [patternEdition.inCategories ["Nd"], .ofCodes [0x66B, 0x66C, 0x19DA],
    (listedProperty "prependedconcatenationmark").diff (.ofCodes [0x70F])]

/-- Characters that extend the one before them, those with a width of their own included. -/
def breakExtending : CodePointSet :=
  .unions [patternEdition.extending, patternEdition.inCategories ["Mc"], .ofRange 0x200D 0x200D]

/-- Format characters that are neither numbers nor joiners nor tags. -/
def breakFormat : CodePointSet :=
  (patternEdition.inCategories ["Cf"]).diff
    (.unions [Edition.joinControl, breakNumeric, tagSigns])

/-! ### Lists -/

/-- Quotation marks that close a sentence without being punctuation of that kind. -/
def sentenceQuotes : CodePointSet := .ofText
  "22 23 27 28 275b 2761 2e00 2e02 2e06 2e09 2e0b 2e0c 1f676 1f679"

/-- Signs after which a sentence goes on. -/
def sentenceInner : CodePointSet := .ofText
  "2c 2e 3a 3c 37e 37f 55d 55e 60c 60e 7f8 7f9 1802 1803 1808 1809 2013 2015 3001 3002 fe10 fe12
   fe13 fe15 fe31 fe33 fe50 fe52 fe54 fe56 fe58 fe59 fe63 fe64 ff0c ff0e ff1a ff1c ff64 ff65"

/-- Signs that are letters for the division into words. -/
def wordSigns : CodePointSet := .ofText
  "2c2 2c6 2d2 2d8 2de 2e0 2e5 2ec 2ed 2ee 2ef 300 55a 55d 55e 55f 58a 58b 5f3 5f4 70f 710 a708
   a717 a720 a722 a789 a78b ab5b ab5c"

/-- Signs that may stand inside a number. -/
def wordNumberInner : CodePointSet := .ofText
  "2c 2d 3b 3c 37e 37f 589 58a 60c 60e 66c 66d 7f8 7f9 2044 2045 fe50 fe51 fe54 fe55 ff0c ff0d
   ff1b ff1c"

/-! ### Clusters -/

/-- The syllables of Hangul without a final letter. -/
def openSyllables : CodePointSet :=
  .ofCodes ((List.range 399).map fun i => 0xAC00 + 28 * i)

/-- The characters of a class of the division into clusters. -/
def clusterBreak? (name : String) : Option CodePointSet :=
  match name with
  | "cr" => some (.ofChar '\r')
  | "lf" => some (.ofChar '\n')
  | "control" =>
    let ignorable := listedProperty "defaultignorablecodepoint"
    some ((patternEdition.clusterControl ignorable).diff (.ofCodes [0x0A, 0x0D]))
  | "extend" => some patternEdition.clusterExtending
  | "l" => some syllableInitials
  | "v" => some syllableVowels
  | "t" => some syllableFinals
  | "lv" => some openSyllables
  | "lvt" => some ((CodePointSet.ofRange 0xAC00 0xD7A3).diff openSyllables)
  | "prepend" => some clusterInitial
  | "regionalindicator" => some flagLetters
  | "spacingmark" => some patternEdition.clusterSpacing
  | "zwj" => some (.ofRange 0x200D 0x200D)
  | _ => none

/-! ### Sentences -/

/-- The letters of Georgian that have no case in this respect. -/
def caselessGeorgian : CodePointSet :=
  .ofRanges [(0x10D0, 0x10FA), (0x10FD, 0x10FF), (0x1C90, 0x1CBA), (0x1CBD, 0x1CBF)]

/-- The characters of a class of the division into sentences. -/
def sentenceBreak? (name : String) : Option CodePointSet :=
  let separators : CodePointSet := .ofCodes [0x85, 0x2028, 0x2029]
  let lower := (patternEdition.lowercase.diff patternEdition.extending).diff caselessGeorgian
  let upper := (patternEdition.uppercase.union (patternEdition.inCategories ["Lt"])).diff
    caselessGeorgian
  let stops : CodePointSet := .ofCodes [0x2E, 0x2024, 0xFE52, 0xFF0E]
  match name with
  | "aterm" => some stops
  | "cr" => some (.ofChar '\r')
  | "lf" => some (.ofChar '\n')
  | "close" => some ((patternEdition.inCategories ["Ps", "Pe", "Pi", "Pf"]).union sentenceQuotes)
  | "extend" => some breakExtending
  | "format" => some breakFormat
  | "lower" => some lower
  | "numeric" => some breakNumeric
  | "oletter" => some ((patternEdition.alphabetic.union (.ofRange 0x5F3 0x5F3)).diff
      (.unions [lower, upper, breakExtending]))
  | "scontinue" => some sentenceInner
  | "sterm" => some ((listedProperty "sentenceterminal").diff stops)
  | "sep" => some separators
  | "sp" => some ((listedProperty "whitespace").diff (separators.union (.ofCodes [0x0A, 0x0D])))
  | "upper" => some upper
  | _ => none

/-! ### Words -/

/-- The scripts that are written without blanks between words. -/
def unspacedScripts : List String :=
  ["hira", "thai", "laoo", "mymr", "khmr", "tale", "talu", "lana", "tavt", "ahom"]

/-- Katakana and the signs that are used with it. -/
def wordKatakana : CodePointSet :=
  (scriptSet "kana").union (.ofRanges [(0x3031, 0x3035), (0x309B, 0x309C), (0x30A0, 0x30A0),
    (0x30FC, 0x30FC), (0xFF70, 0xFF70)])

/-- The letters of Hebrew. -/
def wordHebrew : CodePointSet := (scriptSet "hebr").inter (patternEdition.inCategories ["Lo"])

/-- What extends the character before it inside a word. -/
def wordExtending : CodePointSet :=
  .unions [patternEdition.extending, patternEdition.inCategories ["Mc"], Edition.skinTones]

/-- The letters of the scripts that are written with blanks. -/
def wordLetters : CodePointSet :=
  (patternEdition.alphabetic.diff (.unions [listedProperty "ideographic", wordKatakana, wordHebrew,
    wordExtending, scripts.labelled unspacedScripts])).union wordSigns

/-- The characters of a class of the division into words. -/
def wordBreak? (name : String) : Option CodePointSet :=
  match name with
  | "aletter" => some wordLetters
  | "cr" => some (.ofChar '\r')
  | "lf" => some (.ofChar '\n')
  | "doublequote" => some (.ofRange 0x22 0x22)
  | "singlequote" => some (.ofRange 0x27 0x27)
  | "extend" => some wordExtending
  | "extendnumlet" => some ((patternEdition.inCategories ["Pc"]).union (.ofRange 0x202F 0x202F))
  | "format" => some (breakFormat.diff (.ofCodes [0x70F, 0x200B]))
  | "hebrewletter" => some wordHebrew
  | "katakana" => some wordKatakana
  | "midletter" => some (.ofCodes [0x3A, 0xB7, 0x387, 0x55F, 0x5F4, 0x2027, 0xFE13, 0xFE55, 0xFF1A])
  | "midnum" => some wordNumberInner
  | "midnumlet" => some (.ofCodes [0x2E, 0x2018, 0x2019, 0x2024, 0xFE52, 0xFF07, 0xFF0E])
  | "newline" => some (.ofCodes [0x0B, 0x0C, 0x85, 0x2028, 0x2029])
  | "numeric" => some (breakNumeric.diff (.ofRange 0x66C 0x66C))
  | "regionalindicator" => some flagLetters
  | "wsegspace" => some (.ofRanges [(0x20, 0x20), (0x1680, 0x1680), (0x2000, 0x2006),
      (0x2008, 0x200A), (0x205F, 0x205F), (0x3000, 0x3000)])
  | "zwj" => some (.ofRange 0x200D 0x200D)
  | _ => none

end LineShell.Text
