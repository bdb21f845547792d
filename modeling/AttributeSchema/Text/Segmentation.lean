import AttributeSchema.Text.Property
import AttributeSchema.Text.ScriptTable
/-!
# Where a text may be divided

Clusters of characters, words and sentences end where classes of characters meet. Most of the classes
follow from properties, categories and scripts.
-/

namespace AttributeSchema.Text

/-- What follows the letter or mark before it in a cluster, a word or a sentence. -/
def attachedMarks : Ranges := Ranges.union clusterExtenders spacingMarks

def joiner : Ranges := [(0x200D, 0x200D)]

/-- Characters that control the format and that neither join nor tag what stands before them. -/
def looseFormats : Ranges := Ranges.difference formats [(0x200C, 0x200D), (0xE0020, 0xE007F)]

/-! ### Clusters -/

inductive ClusterBreak
  | carriageReturn
  | lineFeed
  | control
  | extend
  | joiner
  | regionalIndicator
  | prepend
  | spacingMark
  | leadingConsonant
  | vowel
  | trailingConsonant
  | openSyllable
  | closedSyllable
  deriving DecidableEq, Repr, Inhabited

namespace ClusterBreak

/-- Syllables of Hangul without a trailing consonant. -/
def openSyllables : Ranges := (List.range 399).map fun k => (0xAC00 + 28 * k, 0xAC00 + 28 * k)

def ranges : ClusterBreak → Ranges
  | carriageReturn => [(0xD, 0xD)]
  | lineFeed => [(0xA, 0xA)]
  | control =>
    Ranges.difference
      (Ranges.union (Category.union [.lineSeparator, .paragraphSeparator, .control, .format])
        (Ranges.intersection (Category.ranges .unassigned) defaultIgnorable))
      ([(0xD, 0xD), (0xA, 0xA), (0x200C, 0x200D)] ++ prependedMarks ++ clusterExtenders)
  | extend => Ranges.union clusterExtenders emojiModifiers
  | joiner => Text.joiner
  | regionalIndicator => regionalIndicators
  | prepend => [
      (0x600, 0x605), (0x6DD, 0x6DD), (0x70F, 0x70F), (0x890, 0x891), (0x8E2, 0x8E2), (0xD4E, 0xD4E),
      (0x110BD, 0x110BD), (0x110CD, 0x110CD), (0x111C2, 0x111C3), (0x113D1, 0x113D1),
      (0x1193F, 0x1193F), (0x11941, 0x11941), (0x11A3A, 0x11A3A), (0x11A84, 0x11A89),
      (0x11D46, 0x11D46), (0x11F02, 0x11F02)]
  | spacingMark =>
    Ranges.difference (Ranges.union spacingMarks [(0xE33, 0xE33), (0xEB3, 0xEB3)])
      (clusterExtenders ++ [(0x102B, 0x102C), (0x1038, 0x1038), (0x1062, 0x1064), (0x1067, 0x106D),
        (0x1083, 0x1083), (0x1087, 0x108C), (0x108F, 0x108F), (0x109A, 0x109C), (0x1A61, 0x1A61),
        (0x1A63, 0x1A64), (0xAA7B, 0xAA7B), (0xAA7D, 0xAA7D), (0x11720, 0x11721)])
  | leadingConsonant => [(0x1100, 0x115F), (0xA960, 0xA97C)]
  | vowel => [(0x1160, 0x11A7), (0xD7B0, 0xD7C6), (0x16D63, 0x16D63), (0x16D67, 0x16D6A)]
  | trailingConsonant => [(0x11A8, 0x11FF), (0xD7CB, 0xD7FB)]
  | openSyllable => openSyllables
  | closedSyllable => Ranges.difference [(0xAC00, 0xD7A3)] openSyllables

def named : List (List String × ClusterBreak) := [
  (["CR"], carriageReturn), (["LF"], lineFeed), (["Control", "CN"], control),
  (["Extend", "EX"], extend), (["ZWJ"], joiner), (["Regional_Indicator", "RI"], regionalIndicator),
  (["Prepend", "PP"], prepend), (["SpacingMark", "SM"], spacingMark), (["L"], leadingConsonant),
  (["V"], vowel), (["T"], trailingConsonant), (["LV"], openSyllable), (["LVT"], closedSyllable)]

end ClusterBreak

/-! ### Words -/

inductive WordBreak
  | carriageReturn
  | lineFeed
  | newline
  | extend
  | joiner
  | format
  | regionalIndicator
  | katakana
  | hebrewLetter
  | letter
  | singleQuote
  | doubleQuote
  | midNumberOrLetter
  | midLetter
  | midNumber
  | numeric
  | connector
  | space
  deriving DecidableEq, Repr, Inhabited

namespace WordBreak

def ofScripts (names : List String) : Ranges :=
  (scripts.filter fun s => s.names.any names.contains).flatMap Script.own

def hebrewLetters : Ranges := Ranges.intersection (ofScripts ["Hebrew"]) otherLetters

def katakanaCharacters : Ranges :=
  Ranges.union (ofScripts ["Katakana"])
    [(0x3031, 0x3035), (0x309B, 0x309C), (0x30A0, 0x30A0), (0x30FC, 0x30FC), (0xFF70, 0xFF70)]

/-- Letters between which a word does not end; scripts without blanks between words have none. -/
def letters : Ranges :=
  Ranges.difference
    (Ranges.union alphabeticCharacters
      [(0x2C2, 0x2C5), (0x2D2, 0x2D7), (0x2DE, 0x2DF), (0x2E5, 0x2EB), (0x2ED, 0x2ED),
        (0x2EF, 0x2FF), (0x55A, 0x55C), (0x55E, 0x55E), (0x58A, 0x58A), (0x5F3, 0x5F3),
        (0xA708, 0xA716), (0xA720, 0xA721), (0xA789, 0xA78A), (0xAB5B, 0xAB5B)])
    (ideographs ++ katakanaCharacters ++ attachedMarks ++ hebrewLetters ++ ofScripts ["Hiragana",
      "Thai", "Lao", "Myanmar", "Khmer", "Tai_Le", "New_Tai_Lue", "Tai_Tham", "Tai_Viet", "Ahom"])

def ranges : WordBreak → Ranges
  | carriageReturn => [(0xD, 0xD)]
  | lineFeed => [(0xA, 0xA)]
  | newline => [(0xB, 0xC), (0x85, 0x85), (0x2028, 0x2029)]
  | extend => Ranges.union attachedMarks (emojiModifiers ++ [(0x200C, 0x200C)])
  | joiner => Text.joiner
  | format => Ranges.difference looseFormats [(0x200B, 0x200B)]
  | regionalIndicator => regionalIndicators
  | katakana => katakanaCharacters
  | hebrewLetter => hebrewLetters
  | letter => letters
  | singleQuote => [(0x27, 0x27)]
  | doubleQuote => [(0x22, 0x22)]
  | midNumberOrLetter => [
      (0x2E, 0x2E), (0x2018, 0x2019), (0x2024, 0x2024), (0xFE52, 0xFE52), (0xFF07, 0xFF07),
      (0xFF0E, 0xFF0E)]
  | midLetter => [
      (0x3A, 0x3A), (0xB7, 0xB7), (0x387, 0x387), (0x55F, 0x55F), (0x5F4, 0x5F4), (0x2027, 0x2027),
      (0xFE13, 0xFE13), (0xFE55, 0xFE55), (0xFF1A, 0xFF1A)]
  | midNumber => [
      (0x2C, 0x2C), (0x3B, 0x3B), (0x37E, 0x37E), (0x589, 0x589), (0x60C, 0x60D), (0x66C, 0x66C),
      (0x7F8, 0x7F8), (0x2044, 0x2044), (0xFE10, 0xFE10), (0xFE14, 0xFE14), (0xFE50, 0xFE50),
      (0xFE54, 0xFE54), (0xFF0C, 0xFF0C), (0xFF1B, 0xFF1B)]
  | numeric => Ranges.union decimalDigits [(0x66B, 0x66B)]
  | connector => [
      (0x5F, 0x5F), (0x202F, 0x202F), (0x203F, 0x2040), (0x2054, 0x2054), (0xFE33, 0xFE34),
      (0xFE4D, 0xFE4F), (0xFF3F, 0xFF3F)]
  | space => Ranges.difference spaceSeparators [(0xA0, 0xA0), (0x2007, 0x2007), (0x202F, 0x202F)]

def named : List (List String × WordBreak) := [
  (["CR"], carriageReturn), (["LF"], lineFeed), (["Newline", "NL"], newline), (["Extend"], extend),
  (["ZWJ"], joiner), (["Format", "FO"], format), (["Regional_Indicator", "RI"], regionalIndicator),
  (["Katakana", "KA"], katakana), (["Hebrew_Letter", "HL"], hebrewLetter), (["ALetter", "LE"], letter),
  (["Single_Quote", "SQ"], singleQuote), (["Double_Quote", "DQ"], doubleQuote),
  (["MidNumLet", "MB"], midNumberOrLetter), (["MidLetter", "ML"], midLetter),
  (["MidNum", "MN"], midNumber), (["Numeric", "NU"], numeric), (["ExtendNumLet", "EX"], connector),
  (["WSegSpace"], space)]

end WordBreak

/-! ### Sentences -/

inductive SentenceBreak
  | carriageReturn
  | lineFeed
  | separator
  | extend
  | format
  | space
  | lower
  | upper
  | otherLetter
  | numeric
  | fullStop
  | terminal
  | continuation
  | close
  deriving DecidableEq, Repr, Inhabited

namespace SentenceBreak

def extenders : Ranges := Ranges.union attachedMarks ([(0x200C, 0x200C)] ++ joiner)

/-- Lowercase letters; those of Georgian start sentences too. -/
def lowers : Ranges :=
  Ranges.difference lowercaseCharacters (clusterExtenders ++ [(0x10D0, 0x10FA), (0x10FD, 0x10FF)])

/-- Uppercase letters but those of Georgian, and titlecase letters. -/
def uppers : Ranges :=
  Ranges.difference (Ranges.union uppercaseCharacters titlecaseLetters)
    [(0x1C90, 0x1CBA), (0x1CBD, 0x1CBF)]

def ranges : SentenceBreak → Ranges
  | carriageReturn => [(0xD, 0xD)]
  | lineFeed => [(0xA, 0xA)]
  | separator => [(0x85, 0x85), (0x2028, 0x2029)]
  | extend => extenders
  | format => looseFormats
  | space =>
    Ranges.difference blanks [(0xA, 0xA), (0xD, 0xD), (0x85, 0x85), (0x2028, 0x2029)]
  | lower => lowers
  | upper => uppers
  | otherLetter =>
    Ranges.difference (Ranges.union alphabeticCharacters [(0x5F3, 0x5F3)])
      (lowers ++ uppers ++ extenders)
  | numeric => Ranges.union decimalDigits [(0x66B, 0x66C)]
  | fullStop => [(0x2E, 0x2E), (0x2024, 0x2024), (0xFE52, 0xFE52), (0xFF0E, 0xFF0E)]
  | terminal =>
    Ranges.difference sentenceTerminals [(0x2E, 0x2E), (0xFE52, 0xFE52), (0xFF0E, 0xFF0E)]
  | continuation => [
      (0x2C, 0x2D), (0x3A, 0x3A), (0x55D, 0x55D), (0x60C, 0x60D), (0x7F8, 0x7F8), (0x1802, 0x1802),
      (0x1808, 0x1808), (0x2013, 0x2014), (0x3001, 0x3001), (0xFE10, 0xFE11), (0xFE13, 0xFE13),
      (0xFE31, 0xFE32), (0xFE50, 0xFE51), (0xFE55, 0xFE55), (0xFE58, 0xFE58), (0xFE63, 0xFE63),
      (0xFF0C, 0xFF0D), (0xFF1A, 0xFF1A), (0xFF64, 0xFF64)]
  | close =>
    Ranges.union (Category.union [.openPunctuation, .closePunctuation, .initialPunctuation,
        .finalPunctuation])
      [(0x22, 0x22), (0x27, 0x27), (0x275B, 0x2760), (0x2E00, 0x2E01), (0x2E06, 0x2E08),
        (0x2E0B, 0x2E0B), (0x1F676, 0x1F678)]

def named : List (List String × SentenceBreak) := [
  (["CR"], carriageReturn), (["LF"], lineFeed), (["Sep", "SE"], separator), (["Extend", "EX"], extend),
  (["Format", "FO"], format), (["Sp", "SP"], space), (["Lower", "LO"], lower), (["Upper", "UP"], upper),
  (["OLetter", "LE"], otherLetter), (["Numeric", "NU"], numeric), (["ATerm", "AT"], fullStop),
  (["STerm", "ST"], terminal), (["SContinue", "SC"], continuation), (["Close", "CL"], close)]

end SentenceBreak

end AttributeSchema.Text
