import Stencil.Text.Case
import Stencil.Text.PropertyTable

/-!
Properties of characters that follow from categories, case mappings and a few lists: parts of
identifiers, mathematical and hexadecimal characters, code points to ignore, and characters that a
change of case changes.
-/
namespace Stencil.Text

open PropertyTable

def isAsciiHexDigit (c : Char) : Bool :=
  c.isDigit || ('a' ≤ c && c ≤ 'f') || ('A' ≤ c && c ≤ 'F')

/-- Hexadecimal digits, those of full width included. -/
def isHexDigit (c : Char) : Bool :=
  isAsciiHexDigit c || inRuns [(0xFF10, 0xFF19, 1), (0xFF21, 0xFF26, 1), (0xFF41, 0xFF46, 1)] c

def isMath (c : Char) : Bool := Category.mathSymbol.has c || inRuns otherMath c

def isIdentifierStart (c : Char) : Bool :=
  (hasCategory (.letterNumber :: Category.letters) c || inRuns otherIdentifierStarts c)
    && !inRuns patternSyntax c

def isIdentifierPart (c : Char) : Bool :=
  isIdentifierStart c
    || hasCategory [.nonspacingMark, .spacingMark, .decimalNumber, .connectorPunctuation] c
    || inRuns otherIdentifierParts c

/-- Starts of identifiers that stay so when characters are replaced by compatible ones. -/
def isClosedIdentifierStart (c : Char) : Bool :=
  isIdentifierStart c && !inRuns decomposingStarts c

def isClosedIdentifierPart (c : Char) : Bool :=
  isIdentifierPart c && !inRuns decomposingParts c

/-- Annotations and the joiners of hieroglyphs, format characters that are not to be ignored. -/
def shownFormats : CategoryTable.Runs := [(0xFFF9, 0xFFFB, 1), (0x13430, 0x1343F, 1)]

/-- Code points that a program shows nothing for if it does not know them. -/
def isDefaultIgnorable (c : Char) : Bool :=
  inRuns otherIgnorable c || inRuns variationSelectors c
    || (Category.format.has c && !inRuns prependedMarks c && !inRuns shownFormats c)

/-- Shown characters and spaces that extend no other character. -/
def isGraphemeBase (c : Char) : Bool :=
  !extendsGrapheme c && hasCategory (.spaceSeparator :: Category.letters ++ Category.marks
    ++ Category.numbers ++ Category.punctuation ++ Category.symbols) c

/-- The last two code points of each plane, and a block of their own, are no characters. -/
def isNoncharacter (c : Char) : Bool :=
  0xFFFE ≤ c.toNat % 0x10000 || (0xFDD0 ≤ c.toNat && c.toNat ≤ 0xFDEF)

/-- Letters whose pairs spell the flags of countries. -/
def isRegionalIndicator (c : Char) : Bool := 0x1F1E6 ≤ c.toNat && c.toNat ≤ 0x1F1FF

/-- The five tones of skin. -/
def isEmojiModifier (c : Char) : Bool := 0x1F3FB ≤ c.toNat && c.toNat ≤ 0x1F3FF

/-- A change of case counts where both sides are established. -/
def changesTo (c : Char) (mapped : List Char) : Bool := mapped != [c] && mapped.all isEstablished

def changesWhenLowered (c : Char) : Bool := changesTo c (lowerChar c)

def changesWhenUppered (c : Char) : Bool := changesTo c (upperChar c)

/-- Digraphs in upper case, whose second letter is small in titles. -/
def upperDigraphs : CategoryTable.Runs := [(0x1C4, 0x1CA, 3), (0x1F1, 0x1F1, 1)]

/-- The letters of Georgian, which has capitals for whole words only. -/
def georgianSmall : CategoryTable.Runs := [(0x10D0, 0x10FA, 1), (0x10FD, 0x10FF, 1)]

def georgianCapitals : CategoryTable.Runs := [(0x1C90, 0x1CBA, 1), (0x1CBD, 0x1CBF, 1)]

def changesWhenTitled (c : Char) : Bool :=
  inRuns upperDigraphs c
    || (changesWhenUppered c && !Category.titlecaseLetter.has c && !inRuns georgianSmall c)

def changesWhenFolded (c : Char) : Bool :=
  (foldChar c != c && !inRuns foldedAlone c) || inRuns foldedFurther c

end Stencil.Text
