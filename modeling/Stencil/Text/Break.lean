import Stencil.Text.Property

/-!
The classes of characters that decide where a text is divided into graphemes, words and sentences. A
character has at most one class of each kind; a character without one is an ordinary one.
-/
namespace Stencil.Text

open PropertyTable
open CategoryTable (Runs)

inductive GraphemeBreak where
  | carriageReturn | lineFeed | control | extension | joiner | regionalIndicator | prepended
  | spacingMark | leadingConsonant | vowel | trailingConsonant | openSyllable | closedSyllable
deriving DecidableEq, Repr

/-- Consonant signs that belong to the character after them. -/
def leadingSigns : Runs := [
  (0xD4E, 0xD4E, 1), (0x111C2, 0x111C3, 1), (0x113D1, 0x113D1, 1), (0x1193F, 0x11941, 2),
  (0x11A3A, 0x11A3A, 1), (0x11A84, 0x11A89, 1), (0x11D46, 0x11D46, 1), (0x11F02, 0x11F02, 1)]

/-- Spacing marks that do not join the character before them. -/
def standingMarks : Runs := [
  (0x102B, 0x102C, 1), (0x1038, 0x1038, 1), (0x1062, 0x1064, 1), (0x1067, 0x106D, 1),
  (0x1083, 0x1083, 1), (0x1087, 0x108C, 1), (0x108F, 0x108F, 1), (0x109A, 0x109C, 1),
  (0x1A61, 0x1A61, 1), (0x1A63, 0x1A64, 1), (0xAA7B, 0xAA7D, 2), (0x11720, 0x11721, 1)]

/-- Parts of the syllables of Hangul. The vowels of Kirat Rai join in the same way. -/
def leadingConsonants : Runs := [(0x1100, 0x115F, 1), (0xA960, 0xA97C, 1)]

def vowels : Runs := [
  (0x1160, 0x11A7, 1), (0xD7B0, 0xD7C6, 1), (0x16D63, 0x16D63, 1), (0x16D67, 0x16D6A, 1)]

def trailingConsonants : Runs := [(0x11A8, 0x11FF, 1), (0xD7CB, 0xD7FB, 1)]

def graphemeBreak? (c : Char) : Option GraphemeBreak :=
  let n := c.toNat
  if c = '\r' then some .carriageReturn
  else if c = '\n' then some .lineFeed
  else if n = 0x200D then some .joiner
  else if extendsGrapheme c || isEmojiModifier c then some .extension
  else if inRuns prependedMarks c || inRuns leadingSigns c then some .prepended
  else if hasCategory [.control, .format, .lineSeparator, .paragraphSeparator] c
      || (!isAssigned c && isDefaultIgnorable c) then some .control
  else if isRegionalIndicator c then some .regionalIndicator
  else if (Category.spacingMark.has c && !inRuns standingMarks c) || n = 0xE33 || n = 0xEB3 then
    some .spacingMark
  else if inRuns leadingConsonants c then some .leadingConsonant
  else if inRuns vowels c then some .vowel
  else if inRuns trailingConsonants c then some .trailingConsonant
  else if 0xAC00 ≤ n && n ≤ 0xD7A3 then
    some (if (n - 0xAC00) % 28 = 0 then .openSyllable else .closedSyllable)
  else none

/-- Decimal digits, the signs that span numbers, and the decimal mark of Arabic. -/
def isNumberPart (c : Char) : Bool :=
  Category.decimalNumber.has c || (inRuns prependedMarks c && c.toNat != 0x70F)
    || c.toNat == 0x66B || c.toNat == 0x19DA

/-- Line and paragraph separators, and the next line of the control characters. -/
def isLineBreak (c : Char) : Bool := c.toNat == 0x85 || c.toNat == 0x2028 || c.toNat == 0x2029

inductive SentenceBreak where
  | carriageReturn | lineFeed | extension | separator | numeric | format | space | lower | upper
  | letter | fullStop | continuation | terminal | closing
deriving DecidableEq, Repr

/-- Commas, colons and hyphens, after which a sentence goes on. -/
def continuations : Runs := [
  (0x2C, 0x2D, 1), (0x3A, 0x3B, 1), (0x37E, 0x37E, 1), (0x55D, 0x55D, 1), (0x60C, 0x60D, 1),
  (0x7F8, 0x7F8, 1), (0x1802, 0x1802, 1), (0x1808, 0x1808, 1), (0x2013, 0x2014, 1),
  (0x3001, 0x3001, 1), (0xFE10, 0xFE11, 1), (0xFE13, 0xFE14, 1), (0xFE31, 0xFE32, 1),
  (0xFE50, 0xFE51, 1), (0xFE54, 0xFE55, 1), (0xFE58, 0xFE58, 1), (0xFE63, 0xFE63, 1),
  (0xFF0C, 0xFF0D, 1), (0xFF1A, 0xFF1B, 1), (0xFF64, 0xFF64, 1)]

/-- Quotation marks that are the same at both ends, or ornaments. -/
def plainQuotes : Runs := [
  (0x22, 0x22, 1), (0x27, 0x27, 1), (0x275B, 0x2760, 1), (0x2E00, 0x2E01, 1), (0x2E06, 0x2E08, 1),
  (0x2E0B, 0x2E0B, 1), (0x1F676, 0x1F678, 1)]

def sentenceBreak? (c : Char) : Option SentenceBreak :=
  let n := c.toNat
  if c = '\r' then some .carriageReturn
  else if c = '\n' then some .lineFeed
  else if extendsGrapheme c || Category.spacingMark.has c || n = 0x200D then some .extension
  else if isLineBreak c then some .separator
  else if isNumberPart c || n = 0x66C then some .numeric
  else if Category.format.has c then some .format
  else if isBlank c then some .space
  else if isLowercase c && !inRuns georgianSmall c then some .lower
  else if (isUppercase c || Category.titlecaseLetter.has c) && !inRuns georgianCapitals c then
    some .upper
  else if isAlphabetic c || n = 0x5F3 then some .letter
  else if [0x2E, 0x2024, 0xFE52, 0xFF0E].contains n then some .fullStop
  else if inRuns continuations c then some .continuation
  else if inRuns sentenceTerminals c then some .terminal
  else if hasCategory [.openPunctuation, .closePunctuation, .initialPunctuation, .finalPunctuation] c
      || inRuns plainQuotes c then some .closing
  else none

inductive WordBreak where
  | carriageReturn | lineFeed | newline | joiner | extension | regionalIndicator | numeric | format
  | hebrewLetter | katakana | singleQuote | doubleQuote | midNumberLetter | midLetter | midNumber
  | connector | space | letter
deriving DecidableEq, Repr

def katakana : Runs := [
  (0x3031, 0x3035, 1), (0x309B, 0x309C, 1), (0x30A0, 0x30FA, 1), (0x30FC, 0x30FF, 1),
  (0x31F0, 0x31FF, 1), (0x32D0, 0x32FE, 1), (0x3300, 0x3357, 1), (0xFF66, 0xFF9D, 1),
  (0x1AFF0, 0x1AFF3, 1), (0x1AFF5, 0x1AFFB, 1), (0x1AFFD, 0x1AFFE, 1), (0x1B000, 0x1B000, 1),
  (0x1B120, 0x1B122, 1), (0x1B155, 0x1B155, 1), (0x1B164, 0x1B167, 1)]

def midNumberLetters : Runs := [
  (0x2E, 0x2E, 1), (0x2018, 0x2019, 1), (0x2024, 0x2024, 1), (0xFE52, 0xFE52, 1),
  (0xFF07, 0xFF07, 1), (0xFF0E, 0xFF0E, 1)]

def midLetters : Runs := [
  (0x3A, 0x3A, 1), (0xB7, 0xB7, 1), (0x387, 0x387, 1), (0x55F, 0x55F, 1), (0x5F4, 0x5F4, 1),
  (0x2027, 0x2027, 1), (0xFE13, 0xFE13, 1), (0xFE55, 0xFE55, 1), (0xFF1A, 0xFF1A, 1)]

def midNumbers : Runs := [
  (0x2C, 0x2C, 1), (0x3B, 0x3B, 1), (0x37E, 0x37E, 1), (0x589, 0x589, 1), (0x60C, 0x60D, 1),
  (0x66C, 0x66C, 1), (0x7F8, 0x7F8, 1), (0x2044, 0x2044, 1), (0xFE50, 0xFE50, 1),
  (0xFE54, 0xFE54, 1), (0xFF0C, 0xFF0C, 1), (0xFF1B, 0xFF1B, 1)]

/-- Blocks of scripts that put no spaces between words: Thai, Lao, Myanmar, Khmer and their
neighbours, and Hiragana. -/
def unspacedBlocks : Runs := [
  (0xE00, 0xEFF, 1), (0x1000, 0x109F, 1), (0x1780, 0x17FF, 1), (0x1950, 0x19FF, 1),
  (0x1A20, 0x1AAF, 1), (0x3040, 0x309F, 1), (0xA9E0, 0xA9FF, 1), (0xAA60, 0xAADF, 1),
  (0x116D0, 0x116E3, 1), (0x11700, 0x1174F, 1), (0x1B001, 0x1B11F, 1), (0x1B132, 0x1B152, 1)]

/-- Modifiers, hyphens and abbreviation marks that are parts of words. -/
def wordSigns : Runs := [
  (0x2C2, 0x2C5, 1), (0x2D2, 0x2D7, 1), (0x2DE, 0x2DF, 1), (0x2E5, 0x2EB, 1), (0x2ED, 0x2ED, 1),
  (0x2EF, 0x2FF, 1), (0x55A, 0x55C, 1), (0x55E, 0x55E, 1), (0x58A, 0x58A, 1), (0x5F3, 0x5F3, 1),
  (0x70F, 0x70F, 1), (0xA708, 0xA716, 1), (0xA720, 0xA721, 1), (0xA789, 0xA78A, 1),
  (0xAB5B, 0xAB5B, 1)]

def wordBreak? (c : Char) : Option WordBreak :=
  let n := c.toNat
  if c = '\r' then some .carriageReturn
  else if c = '\n' then some .lineFeed
  else if n = 11 || n = 12 || isLineBreak c then some .newline
  else if n = 0x200D then some .joiner
  else if extendsGrapheme c || Category.spacingMark.has c || isEmojiModifier c then some .extension
  else if isRegionalIndicator c then some .regionalIndicator
  else if isNumberPart c then some .numeric
  else if inRuns wordSigns c then some .letter
  else if Category.format.has c && n != 0x200B then some .format
  else if inRuns katakana c then some .katakana
  else if Category.otherLetter.has c && inRuns [(0x590, 0x5FF, 1), (0xFB1D, 0xFB4F, 1)] c then
    some .hebrewLetter
  else if c = '\'' then some .singleQuote
  else if c = '"' then some .doubleQuote
  else if inRuns midNumberLetters c then some .midNumberLetter
  else if inRuns midLetters c then some .midLetter
  else if inRuns midNumbers c then some .midNumber
  else if Category.connectorPunctuation.has c || n = 0x202F then some .connector
  else if Category.spaceSeparator.has c && n != 0xA0 && n != 0x2007 then some .space
  else if isAlphabetic c && !inRuns ideographs c && !inRuns unspacedBlocks c then some .letter
  else none

end Stencil.Text
