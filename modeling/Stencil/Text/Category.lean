import Stencil.Text.Blank
import Stencil.Text.AgeTable

/-!
Character classes built from the general categories of Unicode: word characters, decimal digits,
characters that can be shown, and the classes that the rule for the final sigma asks for. Words and
digits are those of the edition before the newest, the established one; the other classes follow the
newest.
-/
namespace Stencil.Text

open CategoryTable (Runs)

def inRuns (runs : Runs) (c : Char) : Bool :=
  let n := c.toNat
  runs.any fun (first, last, step) => first ≤ n && n ≤ last && (n - first) % step == 0

inductive Category where
  | uppercaseLetter | lowercaseLetter | titlecaseLetter | modifierLetter | otherLetter
  | nonspacingMark | spacingMark | enclosingMark
  | decimalNumber | letterNumber | otherNumber
  | connectorPunctuation | dashPunctuation | openPunctuation | closePunctuation
  | initialPunctuation | finalPunctuation | otherPunctuation
  | mathSymbol | currencySymbol | modifierSymbol | otherSymbol
  | spaceSeparator | lineSeparator | paragraphSeparator
  | control | format | privateUse
deriving DecidableEq, Repr

namespace Category

def runs : Category → Runs
  | uppercaseLetter => CategoryTable.uppercaseLetters
  | lowercaseLetter => CategoryTable.lowercaseLetters
  | titlecaseLetter => CategoryTable.titlecaseLetters
  | modifierLetter => CategoryTable.modifierLetters
  | otherLetter => CategoryTable.otherLetters
  | nonspacingMark => CategoryTable.nonspacingMarks
  | spacingMark => CategoryTable.spacingMarks
  | enclosingMark => CategoryTable.enclosingMarks
  | decimalNumber => CategoryTable.decimalNumbers
  | letterNumber => CategoryTable.letterNumbers
  | otherNumber => CategoryTable.otherNumbers
  | connectorPunctuation => CategoryTable.connectorPunctuation
  | dashPunctuation => CategoryTable.dashPunctuation
  | openPunctuation => CategoryTable.openPunctuation
  | closePunctuation => CategoryTable.closePunctuation
  | initialPunctuation => CategoryTable.initialPunctuation
  | finalPunctuation => CategoryTable.finalPunctuation
  | otherPunctuation => CategoryTable.otherPunctuation
  | mathSymbol => CategoryTable.mathSymbols
  | currencySymbol => CategoryTable.currencySymbols
  | modifierSymbol => CategoryTable.modifierSymbols
  | otherSymbol => CategoryTable.otherSymbols
  | spaceSeparator => CategoryTable.spaceSeparators
  | lineSeparator => CategoryTable.lineSeparators
  | paragraphSeparator => CategoryTable.paragraphSeparators
  | control => CategoryTable.controls
  | format => CategoryTable.formats
  | privateUse => CategoryTable.privateUse

def has (category : Category) (c : Char) : Bool := inRuns category.runs c

def letters : List Category :=
  [uppercaseLetter, lowercaseLetter, titlecaseLetter, modifierLetter, otherLetter]

def casedLetters : List Category := [uppercaseLetter, lowercaseLetter, titlecaseLetter]

def marks : List Category := [nonspacingMark, spacingMark, enclosingMark]

def numbers : List Category := [decimalNumber, letterNumber, otherNumber]

def punctuation : List Category :=
  [connectorPunctuation, dashPunctuation, openPunctuation, closePunctuation, initialPunctuation,
    finalPunctuation, otherPunctuation]

def symbols : List Category := [mathSymbol, currencySymbol, modifierSymbol, otherSymbol]

def separators : List Category := [spaceSeparator, lineSeparator, paragraphSeparator]

def assigned : List Category :=
  letters ++ marks ++ numbers ++ punctuation ++ symbols ++ separators
    ++ [control, format, privateUse]

end Category

def hasCategory (categories : List Category) (c : Char) : Bool := categories.any (·.has c)

def isAssigned (c : Char) : Bool := hasCategory Category.assigned c

/-- Whether the character, if it is one, is in an edition of Unicode before the newest. -/
def isEstablished (c : Char) : Bool := !inRuns AgeTable.newest c

def isAlphabetic (c : Char) : Bool :=
  if c.toNat < 128 then c.isAlpha
  else hasCategory (.letterNumber :: Category.letters) c || inRuns CategoryTable.otherAlphabetic c

def isAlphanumeric (c : Char) : Bool := isAlphabetic c || hasCategory Category.numbers c

/-- Alphabetic characters, marks, decimal digits, connectors and the two joiners. -/
def isWord (c : Char) : Bool :=
  if c.toNat < 128 then c.isAlphanum || c == '_'
  else isEstablished c
    && (isAlphabetic c || hasCategory (.decimalNumber :: .connectorPunctuation :: Category.marks) c
      || c.toNat == 0x200C || c.toNat == 0x200D)

def isDecimalDigit (c : Char) : Bool :=
  if c.toNat < 128 then c.isDigit else isEstablished c && Category.decimalNumber.has c

/-- Lower-case characters that are no lower-case letters. -/
def otherLowercase : Runs := [
  (0xAA, 0xAA, 1), (0xBA, 0xBA, 1), (0x2B0, 0x2B8, 1), (0x2C0, 0x2C1, 1), (0x2E0, 0x2E4, 1),
  (0x345, 0x345, 1), (0x37A, 0x37A, 1), (0x10FC, 0x10FC, 1), (0x1D2C, 0x1D6A, 1),
  (0x1D78, 0x1D78, 1), (0x1D9B, 0x1DBF, 1), (0x2071, 0x2071, 1), (0x207F, 0x207F, 1),
  (0x2090, 0x209C, 1), (0x2170, 0x217F, 1), (0x24D0, 0x24E9, 1), (0x2C7C, 0x2C7D, 1),
  (0xA69C, 0xA69D, 1), (0xA770, 0xA770, 1), (0xA7F1, 0xA7F4, 1), (0xA7F8, 0xA7F9, 1),
  (0xAB5C, 0xAB5F, 1), (0xAB69, 0xAB69, 1), (0x10780, 0x10780, 1), (0x10783, 0x10785, 1),
  (0x10787, 0x107B0, 1), (0x107B2, 0x107BA, 1), (0x1E030, 0x1E06D, 1)]

/-- Upper-case characters that are no upper-case letters. -/
def otherUppercase : Runs := [
  (0x2160, 0x216F, 1), (0x24B6, 0x24CF, 1), (0x1F130, 0x1F149, 1), (0x1F150, 0x1F169, 1),
  (0x1F170, 0x1F189, 1)]

def isLowercase (c : Char) : Bool := Category.lowercaseLetter.has c || inRuns otherLowercase c

def isUppercase (c : Char) : Bool := Category.uppercaseLetter.has c || inRuns otherUppercase c

def isCased (c : Char) : Bool := isLowercase c || isUppercase c || Category.titlecaseLetter.has c

/-- Apostrophes, full stops and colons inside words. -/
def midWord : Runs := [
  (0x27, 0x27, 1), (0x2E, 0x2E, 1), (0x3A, 0x3A, 1), (0xB7, 0xB7, 1), (0x387, 0x387, 1),
  (0x55F, 0x55F, 1), (0x5F4, 0x5F4, 1), (0x2018, 0x2019, 1), (0x2024, 0x2024, 1),
  (0x2027, 0x2027, 1), (0xFE13, 0xFE13, 1), (0xFE52, 0xFE52, 1), (0xFE55, 0xFE55, 1),
  (0xFF07, 0xFF07, 1), (0xFF0E, 0xFF0E, 1), (0xFF1A, 0xFF1A, 1)]

def isCaseIgnorable (c : Char) : Bool :=
  hasCategory [.nonspacingMark, .enclosingMark, .format, .modifierLetter, .modifierSymbol] c
    || inRuns midWord c

/-- Marks with a width of their own, and joiners, that extend the character before them. -/
def otherExtensions : Runs := [
  (0x9BE, 0x9BE, 1), (0x9D7, 0x9D7, 1), (0xB3E, 0xB3E, 1), (0xB57, 0xB57, 1), (0xBBE, 0xBBE, 1),
  (0xBD7, 0xBD7, 1), (0xCC0, 0xCC2, 2), (0xCC7, 0xCC8, 1), (0xCCA, 0xCCB, 1), (0xCD5, 0xCD6, 1),
  (0xD3E, 0xD3E, 1), (0xD57, 0xD57, 1), (0xDCF, 0xDCF, 1), (0xDDF, 0xDDF, 1), (0x1715, 0x1715, 1),
  (0x1734, 0x1734, 1), (0x1B35, 0x1B35, 1), (0x1B3B, 0x1B3D, 2), (0x1B43, 0x1B44, 1),
  (0x1BAA, 0x1BAA, 1), (0x1BF2, 0x1BF3, 1), (0x200C, 0x200C, 1), (0x302E, 0x302F, 1),
  (0xA953, 0xA953, 1), (0xA9C0, 0xA9C0, 1), (0xFF9E, 0xFF9F, 1), (0x111C0, 0x111C0, 1),
  (0x11235, 0x11235, 1), (0x1133E, 0x1133E, 1), (0x1134D, 0x1134D, 1), (0x11357, 0x11357, 1),
  (0x113B8, 0x113B8, 1), (0x113C2, 0x113C2, 1), (0x113C5, 0x113C5, 1), (0x113C7, 0x113C9, 1),
  (0x113CF, 0x113CF, 1), (0x114B0, 0x114B0, 1), (0x114BD, 0x114BD, 1), (0x115AF, 0x115AF, 1),
  (0x116B6, 0x116B6, 1), (0x11930, 0x11930, 1), (0x1193D, 0x1193D, 1), (0x11F41, 0x11F41, 1),
  (0x16FF0, 0x16FF1, 1), (0x1D165, 0x1D166, 1), (0x1D16D, 0x1D172, 1), (0xE0020, 0xE007F, 1)]

/-- Whether the character belongs to the one before it in every division of a text. -/
def extendsGrapheme (c : Char) : Bool :=
  hasCategory [.nonspacingMark, .enclosingMark] c || inRuns otherExtensions c

/-- Characters that show on their own; of the separators only the ordinary space does. -/
def isShown (c : Char) : Bool :=
  if c.toNat < 128 then 32 ≤ c.toNat && c.toNat < 127
  else hasCategory (Category.letters ++ Category.marks ++ Category.numbers ++ Category.punctuation
    ++ Category.symbols) c

end Stencil.Text
