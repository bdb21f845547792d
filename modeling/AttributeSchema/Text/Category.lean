import AttributeSchema.Text.CategoryTable
import AttributeSchema.Text.WordChar
/-!
# General categories

Every character has one general category, and names stand for single categories and for groups of them.
Surrogates have a category of their own, but are no characters.
-/

namespace AttributeSchema.Text

inductive Category
  | uppercaseLetter
  | lowercaseLetter
  | titlecaseLetter
  | modifierLetter
  | otherLetter
  | nonspacingMark
  | spacingMark
  | enclosingMark
  | decimalNumber
  | letterNumber
  | otherNumber
  | connectorPunctuation
  | dashPunctuation
  | openPunctuation
  | closePunctuation
  | initialPunctuation
  | finalPunctuation
  | otherPunctuation
  | mathSymbol
  | currencySymbol
  | modifierSymbol
  | otherSymbol
  | spaceSeparator
  | lineSeparator
  | paragraphSeparator
  | control
  | format
  | privateUse
  | unassigned
  deriving DecidableEq, Repr, Inhabited

def assignedCharacters : Ranges :=
  Ranges.ordered (uppercaseLetters ++ lowercaseLetters ++ titlecaseLetters ++ modifierLetters ++
    otherLetters ++ nonspacingMarks ++ spacingMarks ++ enclosingMarks ++ decimalDigits ++
    letterNumbers ++ otherNumbers ++ connectorPunctuation ++ dashPunctuation ++ openPunctuation ++
    closePunctuation ++ initialPunctuation ++ finalPunctuation ++ otherPunctuation ++ mathSymbols ++
    currencySymbols ++ modifierSymbols ++ otherSymbols ++ spaceSeparators ++ lineSeparators ++
    paragraphSeparators ++ controls ++ formats ++ privateUse)

def Category.ranges : Category → Ranges
  | uppercaseLetter => uppercaseLetters
  | lowercaseLetter => lowercaseLetters
  | titlecaseLetter => titlecaseLetters
  | modifierLetter => modifierLetters
  | otherLetter => otherLetters
  | nonspacingMark => nonspacingMarks
  | spacingMark => spacingMarks
  | enclosingMark => enclosingMarks
  | decimalNumber => decimalDigits
  | letterNumber => letterNumbers
  | otherNumber => otherNumbers
  | connectorPunctuation => Text.connectorPunctuation
  | dashPunctuation => Text.dashPunctuation
  | openPunctuation => Text.openPunctuation
  | closePunctuation => Text.closePunctuation
  | initialPunctuation => Text.initialPunctuation
  | finalPunctuation => Text.finalPunctuation
  | otherPunctuation => Text.otherPunctuation
  | mathSymbol => mathSymbols
  | currencySymbol => currencySymbols
  | modifierSymbol => modifierSymbols
  | otherSymbol => otherSymbols
  | spaceSeparator => spaceSeparators
  | lineSeparator => lineSeparators
  | paragraphSeparator => paragraphSeparators
  | control => controls
  | format => formats
  | privateUse => Text.privateUse
  | unassigned => assignedCharacters.complement

namespace Category

def casedLetters : List Category := [uppercaseLetter, lowercaseLetter, titlecaseLetter]

def letters : List Category := casedLetters ++ [modifierLetter, otherLetter]

def marks : List Category := [nonspacingMark, spacingMark, enclosingMark]

def numbers : List Category := [decimalNumber, letterNumber, otherNumber]

def punctuation : List Category :=
  [.connectorPunctuation, .dashPunctuation, .openPunctuation, .closePunctuation,
    .initialPunctuation, .finalPunctuation, .otherPunctuation]

def symbols : List Category := [mathSymbol, currencySymbol, modifierSymbol, otherSymbol]

def separators : List Category := [spaceSeparator, lineSeparator, paragraphSeparator]

def others : List Category := [control, format, .privateUse, unassigned]

def named : List (List String × List Category) := [
  (["Uppercase_Letter", "Lu"], [uppercaseLetter]), (["Lowercase_Letter", "Ll"], [lowercaseLetter]),
  (["Titlecase_Letter", "Lt"], [titlecaseLetter]), (["Cased_Letter", "LC"], casedLetters),
  (["Modifier_Letter", "Lm"], [modifierLetter]), (["Other_Letter", "Lo"], [otherLetter]),
  (["Letter", "L"], letters), (["Nonspacing_Mark", "Mn"], [nonspacingMark]),
  (["Spacing_Mark", "Mc"], [spacingMark]), (["Enclosing_Mark", "Me"], [enclosingMark]),
  (["Mark", "M", "Combining_Mark"], marks), (["Decimal_Number", "Nd", "digit"], [decimalNumber]),
  (["Letter_Number", "Nl"], [letterNumber]), (["Other_Number", "No"], [otherNumber]),
  (["Number", "N"], numbers), (["Connector_Punctuation", "Pc"], [.connectorPunctuation]),
  (["Dash_Punctuation", "Pd"], [.dashPunctuation]), (["Open_Punctuation", "Ps"], [.openPunctuation]),
  (["Close_Punctuation", "Pe"], [.closePunctuation]),
  (["Initial_Punctuation", "Pi"], [.initialPunctuation]),
  (["Final_Punctuation", "Pf"], [.finalPunctuation]),
  (["Other_Punctuation", "Po"], [.otherPunctuation]), (["Punctuation", "P", "punct"], punctuation),
  (["Math_Symbol", "Sm"], [mathSymbol]), (["Currency_Symbol", "Sc"], [currencySymbol]),
  (["Modifier_Symbol", "Sk"], [modifierSymbol]), (["Other_Symbol", "So"], [otherSymbol]),
  (["Symbol", "S"], symbols), (["Space_Separator", "Zs"], [spaceSeparator]),
  (["Line_Separator", "Zl"], [lineSeparator]), (["Paragraph_Separator", "Zp"], [paragraphSeparator]),
  (["Separator", "Z"], separators), (["Control", "Cc", "cntrl"], [control]),
  (["Format", "Cf"], [format]), (["Private_Use", "Co"], [.privateUse]),
  (["Unassigned", "Cn"], [unassigned]), (["Other", "C"], others)]

def union (categories : List Category) : Ranges := Ranges.ordered (categories.flatMap ranges)

end Category

end AttributeSchema.Text
