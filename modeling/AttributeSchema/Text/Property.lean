import AttributeSchema.Text.CaseFolding
import AttributeSchema.Text.Category
import AttributeSchema.Text.PropertyTable
/-!
# Properties of characters

A property of Unicode holds of some characters and not of others. Many properties follow from general
categories and from the cases of letters, with a few characters added or left out.
-/

namespace AttributeSchema.Text

/-! ### Sets that follow from categories and cases -/

def asciiLetters : Ranges := [(0x41, 0x5A), (0x61, 0x7A)]

/-- Letters, numbers that look like letters, and what stands for vowels. -/
def alphabeticCharacters : Ranges :=
  Ranges.union (Category.union (.letterNumber :: Category.letters)) otherAlphabetic

def lowercaseCharacters : Ranges := Ranges.union lowercaseLetters otherLowercase

def uppercaseCharacters : Ranges := Ranges.union uppercaseLetters otherUppercase

def casedCharacters : Ranges :=
  Ranges.ordered (lowercaseCharacters ++ uppercaseCharacters ++ titlecaseLetters)

/-- What does not count where the case of its neighbours is looked at: marks, and punctuation that
stands between letters. -/
def caseIgnorableCharacters : Ranges :=
  Ranges.union (Category.union [.nonspacingMark, .enclosingMark, .format, .modifierLetter,
      .modifierSymbol])
    [(0x27, 0x27), (0x2E, 0x2E), (0x3A, 0x3A), (0xB7, 0xB7), (0x387, 0x387), (0x55F, 0x55F),
      (0x5F4, 0x5F4), (0x2018, 0x2019), (0x2024, 0x2024), (0x2027, 0x2027), (0xFE13, 0xFE13),
      (0xFE52, 0xFE52), (0xFE55, 0xFE55), (0xFF07, 0xFF07), (0xFF0E, 0xFF0E), (0xFF1A, 0xFF1A)]

def foldingSources : Ranges := Ranges.ordered (foldingPairs.map fun p => (p.1, p.1))

def foldingLetters : Ranges :=
  Ranges.ordered (foldingPairs.flatMap fun p => [(p.1, p.1), (p.2, p.2)])

/-- What case folding changes, which takes some characters to several ones. -/
def foldedCharacters : Ranges :=
  Ranges.difference
    (Ranges.union foldingSources
      [(0xDF, 0xDF), (0x130, 0x130), (0x149, 0x149), (0x587, 0x587), (0x1E9A, 0x1E9A),
        (0x1F80, 0x1F87), (0x1F90, 0x1F97), (0x1FA0, 0x1FA7), (0x1FB2, 0x1FB4), (0x1FB7, 0x1FB7),
        (0x1FC2, 0x1FC4), (0x1FC7, 0x1FC7), (0x1FF2, 0x1FF4), (0x1FF7, 0x1FF7), (0xFB00, 0xFB04),
        (0xFB06, 0xFB06), (0xFB13, 0xFB17)])
    [(0x1FBE, 0x1FBE), (0x1FD3, 0x1FD3), (0x1FE3, 0x1FE3)]

def loweredCharacters : Ranges :=
  Ranges.union
    (Ranges.intersection foldingLetters (Ranges.union uppercaseCharacters titlecaseLetters))
    [(0x130, 0x130)]

/-- What has another form in uppercase, which is of several letters for some characters. -/
def raisedCharacters : Ranges :=
  Ranges.union
    (Ranges.intersection foldingLetters (Ranges.union lowercaseCharacters titlecaseLetters))
    [(0x131, 0x131), (0x149, 0x149), (0x1F0, 0x1F0), (0x587, 0x587), (0x1E96, 0x1E9A),
      (0x1F50, 0x1F50), (0x1F52, 0x1F52), (0x1F54, 0x1F54), (0x1F56, 0x1F56), (0x1FB2, 0x1FB2),
      (0x1FB4, 0x1FB4), (0x1FB6, 0x1FB7), (0x1FC2, 0x1FC2), (0x1FC4, 0x1FC4), (0x1FC6, 0x1FC7),
      (0x1FD2, 0x1FD2), (0x1FD6, 0x1FD7), (0x1FE2, 0x1FE2), (0x1FE4, 0x1FE4), (0x1FE6, 0x1FE7),
      (0x1FF2, 0x1FF2), (0x1FF4, 0x1FF4), (0x1FF6, 0x1FF7), (0xFB00, 0xFB06), (0xFB13, 0xFB17)]

/-- What has another form at the start of a title; letters of Georgian have none there. -/
def titledCharacters : Ranges :=
  Ranges.union
    (Ranges.difference raisedCharacters (titlecaseLetters ++ [(0x10D0, 0x10FA), (0x10FD, 0x10FF)]))
    [(0x1C4, 0x1C4), (0x1C7, 0x1C7), (0x1CA, 0x1CA), (0x1F1, 0x1F1)]

def mappedCharacters : Ranges :=
  Ranges.ordered (loweredCharacters ++ raisedCharacters ++ titledCharacters)

def clusterExtenders : Ranges :=
  Ranges.union (Category.union [.nonspacingMark, .enclosingMark]) otherGraphemeExtend

def clusterBases : Ranges :=
  Ranges.complement (Ranges.union clusterExtenders (Category.union
    [.control, .format, .privateUse, .unassigned, .lineSeparator, .paragraphSeparator]))

def mathCharacters : Ranges := Ranges.union mathSymbols otherMath

def identifierStarts : Ranges :=
  Ranges.difference
    (Ranges.union (Category.union (.letterNumber :: Category.letters)) otherIdentifierStart)
    (patternSyntax ++ patternBlanks)

def identifierContinues : Ranges :=
  Ranges.difference
    (Ranges.ordered (identifierStarts ++ otherIdentifierContinue ++ Category.union
      [.nonspacingMark, .spacingMark, .decimalNumber, .connectorPunctuation]))
    (patternSyntax ++ patternBlanks)

/-! ### Properties with names -/

inductive Property
  | asciiHexDigit
  | alphabetic
  | bidiControl
  | bidiMirrored
  | caseIgnorable
  | cased
  | changesWhenCasefolded
  | changesWhenCasemapped
  | changesWhenLowercased
  | changesWhenTitlecased
  | changesWhenUppercased
  | dash
  | defaultIgnorable
  | isDeprecated
  | diacritic
  | emoji
  | emojiComponent
  | emojiModifier
  | emojiModifierBase
  | emojiPresentation
  | extendedPictographic
  | extender
  | graphemeBase
  | graphemeExtend
  | graphemeLink
  | hexDigit
  | hyphen
  | idsUnaryOperator
  | idsBinaryOperator
  | idsTernaryOperator
  | compatMathStart
  | compatMathContinue
  | idStart
  | idContinue
  | xidStart
  | xidContinue
  | ideographic
  | joinControl
  | logicalOrderException
  | lowercase
  | math
  | modifierCombiningMark
  | noncharacter
  | otherAlphabetic
  | otherDefaultIgnorable
  | otherGraphemeExtend
  | otherIdStart
  | otherIdContinue
  | otherLowercase
  | otherMath
  | otherUppercase
  | patternSyntax
  | patternBlank
  | prependedMark
  | quotationMark
  | radical
  | regionalIndicator
  | sentenceTerminal
  | softDotted
  | terminalPunctuation
  | unifiedIdeograph
  | uppercase
  | variationSelector
  | blank
  deriving DecidableEq, Repr, Inhabited

namespace Property

def ranges : Property → Ranges
  | asciiHexDigit => asciiHexDigits
  | alphabetic => alphabeticCharacters
  | bidiControl => bidiControls
  | bidiMirrored => mirrored
  | caseIgnorable => caseIgnorableCharacters
  | cased => casedCharacters
  | changesWhenCasefolded => foldedCharacters
  | changesWhenCasemapped => mappedCharacters
  | changesWhenLowercased => loweredCharacters
  | changesWhenTitlecased => titledCharacters
  | changesWhenUppercased => raisedCharacters
  | dash => dashes
  | defaultIgnorable => Text.defaultIgnorable
  | isDeprecated => deprecatedCharacters
  | diacritic => diacritics
  | emoji => emojis
  | emojiComponent => emojiComponents
  | emojiModifier => emojiModifiers
  | emojiModifierBase => emojiModifierBases
  | emojiPresentation => Text.emojiPresentation
  | extendedPictographic => pictographs
  | extender => extenders
  | graphemeBase => clusterBases
  | graphemeExtend => clusterExtenders
  | graphemeLink => graphemeLinks
  | hexDigit => hexadecimalDigits
  | hyphen => hyphens
  | idsUnaryOperator => idsUnaryOperators
  | idsBinaryOperator => idsBinaryOperators
  | idsTernaryOperator => idsTernaryOperators
  | compatMathStart => compatMathStarts
  | compatMathContinue => compatMathStarts.union compatMathDigits
  | idStart => identifierStarts
  | idContinue => identifierContinues
  | xidStart => asciiLetters ++ identifierStart
  | xidContinue => Ranges.union (asciiLetters ++ identifierContinue) [(0x30, 0x39), (0x5F, 0x5F)]
  | ideographic => ideographs
  | joinControl => joinControls
  | logicalOrderException => logicalOrderExceptions
  | lowercase => lowercaseCharacters
  | math => mathCharacters
  | modifierCombiningMark => modifierCombiningMarks
  | noncharacter => noncharacters
  | otherAlphabetic => Text.otherAlphabetic
  | otherDefaultIgnorable => otherIgnorable
  | otherGraphemeExtend => Text.otherGraphemeExtend
  | otherIdStart => otherIdentifierStart
  | otherIdContinue => otherIdentifierContinue
  | otherLowercase => Text.otherLowercase
  | otherMath => Text.otherMath
  | otherUppercase => Text.otherUppercase
  | patternSyntax => Text.patternSyntax
  | patternBlank => patternBlanks
  | prependedMark => prependedMarks
  | quotationMark => quotationMarks
  | radical => radicals
  | regionalIndicator => regionalIndicators
  | sentenceTerminal => sentenceTerminals
  | softDotted => Text.softDotted
  | terminalPunctuation => Text.terminalPunctuation
  | unifiedIdeograph => unifiedIdeographs
  | uppercase => uppercaseCharacters
  | variationSelector => variationSelectors
  | blank => blanks

def named : List (List String × Property) := [
  (["ASCII_Hex_Digit", "AHex"], .asciiHexDigit), (["Alphabetic", "Alpha"], .alphabetic),
  (["Bidi_Control", "Bidi_C"], .bidiControl), (["Bidi_Mirrored", "Bidi_M"], .bidiMirrored),
  (["Case_Ignorable", "CI"], .caseIgnorable), (["Cased"], .cased),
  (["Changes_When_Casefolded", "CWCF"], .changesWhenCasefolded),
  (["Changes_When_Casemapped", "CWCM"], .changesWhenCasemapped),
  (["Changes_When_Lowercased", "CWL"], .changesWhenLowercased),
  (["Changes_When_Titlecased", "CWT"], .changesWhenTitlecased),
  (["Changes_When_Uppercased", "CWU"], .changesWhenUppercased), (["Dash"], .dash),
  (["Default_Ignorable_Code_Point", "DI"], .defaultIgnorable),
  (["Deprecated", "Dep"], .isDeprecated), (["Diacritic", "Dia"], .diacritic), (["Emoji"], .emoji),
  (["Emoji_Component", "EComp"], .emojiComponent), (["Emoji_Modifier", "EMod"], .emojiModifier),
  (["Emoji_Modifier_Base", "EBase"], .emojiModifierBase),
  (["Emoji_Presentation", "EPres"], .emojiPresentation),
  (["Extended_Pictographic", "ExtPict"], .extendedPictographic), (["Extender", "Ext"], .extender),
  (["Grapheme_Base", "Gr_Base"], .graphemeBase), (["Grapheme_Extend", "Gr_Ext"], .graphemeExtend),
  (["Grapheme_Link", "Gr_Link"], .graphemeLink), (["Hex_Digit", "Hex"], .hexDigit),
  (["Hyphen"], .hyphen), (["IDS_Unary_Operator", "IDSU"], .idsUnaryOperator),
  (["IDS_Binary_Operator", "IDSB"], .idsBinaryOperator),
  (["IDS_Trinary_Operator", "IDST"], .idsTernaryOperator),
  (["ID_Compat_Math_Start"], .compatMathStart), (["ID_Compat_Math_Continue"], .compatMathContinue),
  (["ID_Start", "IDS"], .idStart), (["ID_Continue", "IDC"], .idContinue),
  (["XID_Start", "XIDS"], .xidStart), (["XID_Continue", "XIDC"], .xidContinue),
  (["Ideographic", "Ideo"], .ideographic), (["Join_Control", "Join_C"], .joinControl),
  (["Logical_Order_Exception", "LOE"], .logicalOrderException),
  (["Lowercase", "Lower"], .lowercase), (["Math"], .math),
  (["Modifier_Combining_Mark", "MCM"], .modifierCombiningMark),
  (["Noncharacter_Code_Point", "NChar"], .noncharacter),
  (["Other_Alphabetic", "OAlpha"], .otherAlphabetic),
  (["Other_Default_Ignorable_Code_Point", "ODI"], .otherDefaultIgnorable),
  (["Other_Grapheme_Extend", "OGr_Ext"], .otherGraphemeExtend),
  (["Other_ID_Start", "OIDS"], .otherIdStart), (["Other_ID_Continue", "OIDC"], .otherIdContinue),
  (["Other_Lowercase", "OLower"], .otherLowercase), (["Other_Math", "OMath"], .otherMath),
  (["Other_Uppercase", "OUpper"], .otherUppercase), (["Pattern_Syntax", "Pat_Syn"], .patternSyntax),
  (["Pattern_White_Space", "Pat_WS"], .patternBlank),
  (["Prepended_Concatenation_Mark", "PCM"], .prependedMark),
  (["Quotation_Mark", "QMark"], .quotationMark), (["Radical"], .radical),
  (["Regional_Indicator", "RI"], .regionalIndicator),
  (["Sentence_Terminal", "STerm"], .sentenceTerminal), (["Soft_Dotted", "SD"], .softDotted),
  (["Terminal_Punctuation", "Term"], .terminalPunctuation),
  (["Unified_Ideograph", "UIdeo"], .unifiedIdeograph), (["Uppercase", "Upper"], .uppercase),
  (["Variation_Selector", "VS"], .variationSelector), (["White_Space", "WSpace", "space"], .blank)]

end Property

end AttributeSchema.Text
