import Stencil.Text.Break
import Stencil.Text.ScriptTable

/-!
Sets of characters and the names that patterns give them: general categories, scripts, editions of
Unicode, classes of text division, other properties, and the classes of ASCII. Names of properties are
compared without case, blanks, hyphens and low lines. Characters of the newest edition have no
properties here.
-/
namespace Stencil.Pattern

abbrev CharSet := Char → Bool

namespace CharSet

def range (first last : Char) : CharSet := fun c => first ≤ c && c ≤ last

def union (a b : CharSet) : CharSet := fun c => a c || b c

def intersection (a b : CharSet) : CharSet := fun c => a c && b c

def difference (a b : CharSet) : CharSet := fun c => a c && !b c

def symmetricDifference (a b : CharSet) : CharSet := fun c => a c != b c

def negateIf (negated : Bool) (set : CharSet) : CharSet := fun c => set c != negated

/-- All case variants of the members, as far as the alphabet allows them. -/
def folded (unicode : Bool) (set : CharSet) : CharSet := fun c =>
  if unicode then (Text.caseVariants c).any set else set c.toLower || set c.toUpper

end CharSet

open Text (Category inRuns)
open Text.PropertyTable

/-- The set without the characters that patterns do not know. -/
def CharSet.established (set : CharSet) : CharSet := fun c => Text.isEstablished c && set c

/-- A name as it is compared: without a leading `is`, separators and all that is not ASCII. The short
name that is left as `c` is that of a comment, and not that of a category. -/
def looseName (name : List Char) : String :=
  let (shortened, name) := match name with
    | i :: s :: rest => if i.toLower == 'i' && s.toLower == 's' then (true, rest) else (false, name)
    | name => (false, name)
  let kept := name.filter fun c => c.toNat < 128 && c != ' ' && c != '_' && c != '-'
  let lowered := String.ofList (kept.map Char.toLower)
  if shortened && lowered = "c" then "isc" else lowered

/-- What a table of names has under the name. -/
def named? {α : Type} (table : List (List String × α)) (name : String) : Option α :=
  (table.find? (·.1.contains name)).map (·.2)

def categoryNames : List (List String × List Category) := [
  (["l", "letter"], Category.letters),
  (["lc", "casedletter"], Category.casedLetters),
  (["lu", "uppercaseletter"], [.uppercaseLetter]),
  (["ll", "lowercaseletter"], [.lowercaseLetter]),
  (["lt", "titlecaseletter"], [.titlecaseLetter]),
  (["lm", "modifierletter"], [.modifierLetter]),
  (["lo", "otherletter"], [.otherLetter]),
  (["m", "mark", "combiningmark"], Category.marks),
  (["mn", "nonspacingmark"], [.nonspacingMark]),
  (["mc", "spacingmark"], [.spacingMark]),
  (["me", "enclosingmark"], [.enclosingMark]),
  (["n", "number"], Category.numbers),
  (["nd", "decimalnumber", "digit"], [.decimalNumber]),
  (["nl", "letternumber"], [.letterNumber]),
  (["no", "othernumber"], [.otherNumber]),
  (["p", "punctuation", "punct"], Category.punctuation),
  (["pc", "connectorpunctuation"], [.connectorPunctuation]),
  (["pd", "dashpunctuation"], [.dashPunctuation]),
  (["ps", "openpunctuation"], [.openPunctuation]),
  (["pe", "closepunctuation"], [.closePunctuation]),
  (["pi", "initialpunctuation"], [.initialPunctuation]),
  (["pf", "finalpunctuation"], [.finalPunctuation]),
  (["po", "otherpunctuation"], [.otherPunctuation]),
  (["s", "symbol"], Category.symbols),
  (["sm", "mathsymbol"], [.mathSymbol]),
  (["sc", "currencysymbol"], [.currencySymbol]),
  (["sk", "modifiersymbol"], [.modifierSymbol]),
  (["so", "othersymbol"], [.otherSymbol]),
  (["z", "separator"], Category.separators),
  (["zs", "spaceseparator"], [.spaceSeparator]),
  (["zl", "lineseparator"], [.lineSeparator]),
  (["zp", "paragraphseparator"], [.paragraphSeparator]),
  (["cc", "control", "cntrl"], [.control]),
  (["cf", "format"], [.format]),
  (["co", "privateuse"], [.privateUse])]

def assigned : CharSet := CharSet.established Text.isAssigned

def categoryOf? (name : String) : Option CharSet :=
  if name = "c" || name = "other" then
    some fun c => !assigned c || Text.hasCategory [.control, .format, .privateUse] c
  else if name = "cn" || name = "unassigned" then some (!assigned ·)
  else if name = "assigned" then some assigned
  else if name = "any" then some fun _ => true
  else if name = "ascii" then some (·.toNat < 128)
  else (named? categoryNames name).map fun categories =>
    CharSet.established (Text.hasCategory categories)

/-- Runs of code points, first and last. -/
def inSpans (spans : List (Nat × Nat)) : CharSet := fun c =>
  spans.any fun (first, last) => first ≤ c.toNat && c.toNat ≤ last

def scriptName (name : String) : String := (Text.ScriptTable.shortNames.lookup name).getD name

def scriptSpans (script : String) : List (Nat × Nat) :=
  (Text.ScriptTable.runs.filter (·.1 == script)).map (·.2)

def scriptOf? (name : String) : Option CharSet :=
  let spans := scriptSpans (scriptName name)
  if spans.isEmpty then none else some (inSpans spans)

/-- The characters used in a script: those listed for it, and those of the script that are listed for
none. -/
def scriptUseOf? (name : String) : Option CharSet :=
  let script := scriptName name
  let listed := Text.ScriptTable.extensions.filter (·.2.2.any (scriptName · == script))
  let shared := inSpans (listed.map fun (first, last, _) => (first, last))
  let anyShared := inSpans (Text.ScriptTable.extensions.map fun (first, last, _) => (first, last))
  (scriptOf? name).map fun own => CharSet.union shared (CharSet.difference own anyShared)

/-- The characters of an edition of Unicode and of those before it. The edition is called by its number,
or by the digits of it after a `v`. -/
def ageOf? (name : String) : Option CharSet :=
  let editions := Text.AgeTable.editions
  let isCalled (edition : String) : Bool :=
    name = edition || name.toList = 'v' :: edition.toList.filter (· != '.')
  (editions.findIdx? fun (edition, _) => isCalled edition).map fun index c =>
    (editions.take (index + 1)).any fun (_, runs) => inRuns runs c

/-- Properties that follow from the newest categories and case mappings. -/
def derivedNames : List (List String × CharSet) := [
  (["alphabetic", "alpha"], Text.isAlphabetic),
  (["cased"], Text.isCased),
  (["caseignorable", "ci"], Text.isCaseIgnorable),
  (["changeswhencasefolded", "cwcf"], Text.changesWhenFolded),
  (["changeswhencasemapped", "cwcm"], fun c => Text.changesWhenLowered c || Text.changesWhenUppered c),
  (["changeswhenlowercased", "cwl"], Text.changesWhenLowered),
  (["changeswhentitlecased", "cwt"], Text.changesWhenTitled),
  (["changeswhenuppercased", "cwu"], Text.changesWhenUppered),
  (["defaultignorablecodepoint", "di"], Text.isDefaultIgnorable),
  (["graphemebase", "grbase"], Text.isGraphemeBase),
  (["graphemeextend", "grext"], Text.extendsGrapheme),
  (["idcontinue", "idc"], Text.isIdentifierPart),
  (["idstart", "ids"], Text.isIdentifierStart),
  (["lowercase", "lower"], Text.isLowercase),
  (["math"], Text.isMath),
  (["otheralphabetic", "oalpha"], inRuns Text.CategoryTable.otherAlphabetic),
  (["othergraphemeextend", "ogrext"], inRuns Text.otherExtensions),
  (["otherlowercase", "olower"], inRuns Text.otherLowercase),
  (["otheruppercase", "oupper"], inRuns Text.otherUppercase),
  (["uppercase", "upper"], Text.isUppercase),
  (["xidcontinue", "xidc"], Text.isClosedIdentifierPart),
  (["xidstart", "xids"], Text.isClosedIdentifierStart)]

/-- Properties with established lists of their own, which may hold code points that are free. -/
def listedNames : List (List String × CharSet) := [
  (["asciihexdigit", "ahex"], Text.isAsciiHexDigit),
  (["bidicontrol", "bidic"], inRuns bidiControls),
  (["bidimirrored", "bidim"], inRuns bidiMirrored),
  (["dash"], inRuns dashes),
  (["deprecated", "dep"], inRuns deprecatedCharacters),
  (["diacritic", "dia"], inRuns diacritics),
  (["emoji"], inRuns emoji),
  (["emojicomponent", "ecomp"], inRuns emojiComponents),
  (["emojimodifier", "emod"], Text.isEmojiModifier),
  (["emojimodifierbase", "ebase"], inRuns emojiModifierBases),
  (["emojipresentation", "epres"], inRuns emojiPresentation),
  (["extendedpictographic", "extpict"], inRuns extendedPictographic),
  (["extender", "ext"], inRuns extenders),
  (["graphemelink", "grlink"], inRuns graphemeLinks),
  (["hexdigit", "hex"], Text.isHexDigit),
  (["hyphen"], inRuns hyphens),
  (["idcompatmathcontinue"], inRuns mathIdentifierParts),
  (["idcompatmathstart"], inRuns mathIdentifierStarts),
  (["ideographic", "ideo"], inRuns ideographs),
  (["idsbinaryoperator", "idsb"], inRuns binaryDescriptions),
  (["idstrinaryoperator", "idst"], CharSet.range '\u2FF2' '\u2FF3'),
  (["idsunaryoperator", "idsu"], CharSet.range '\u2FFE' '\u2FFF'),
  (["joincontrol", "joinc"], CharSet.range '\u200C' '\u200D'),
  (["logicalorderexception", "loe"], inRuns logicalOrderExceptions),
  (["modifiercombiningmark", "mcm"], inRuns modifierCombiningMarks),
  (["noncharactercodepoint", "nchar"], Text.isNoncharacter),
  (["otherdefaultignorablecodepoint", "odi"], inRuns otherIgnorable),
  (["otheridcontinue", "oidc"], inRuns otherIdentifierParts),
  (["otheridstart", "oids"], inRuns otherIdentifierStarts),
  (["othermath", "omath"], inRuns otherMath),
  (["patternsyntax", "patsyn"], inRuns patternSyntax),
  (["patternwhitespace", "patws"],
    inRuns [(9, 13, 1), (0x20, 0x20, 1), (0x85, 0x85, 1), (0x200E, 0x200F, 1), (0x2028, 0x2029, 1)]),
  (["prependedconcatenationmark", "pcm"], inRuns prependedMarks),
  (["quotationmark", "qmark"], inRuns quotationMarks),
  (["radical"], inRuns radicals),
  (["regionalindicator", "ri"], Text.isRegionalIndicator),
  (["sentenceterminal", "sterm"], inRuns sentenceTerminals),
  (["softdotted", "sd"], inRuns softDotted),
  (["terminalpunctuation", "term"], inRuns terminalPunctuation),
  (["unifiedideograph", "uideo"], inRuns unifiedIdeographs),
  (["variationselector", "vs"], inRuns variationSelectors),
  (["whitespace", "wspace", "space"], Text.isBlank)]

def propertyOf? (name : String) : Option CharSet :=
  ((named? derivedNames name).map CharSet.established).or (named? listedNames name)

def graphemeBreakNames : List (List String × Text.GraphemeBreak) := [
  (["cr"], .carriageReturn), (["lf"], .lineFeed), (["control", "cn"], .control),
  (["extend", "ex"], .extension), (["zwj"], .joiner), (["regionalindicator", "ri"], .regionalIndicator),
  (["prepend", "pp"], .prepended), (["spacingmark", "sm"], .spacingMark), (["l"], .leadingConsonant),
  (["v"], .vowel), (["t"], .trailingConsonant), (["lv"], .openSyllable), (["lvt"], .closedSyllable)]

def sentenceBreakNames : List (List String × Text.SentenceBreak) := [
  (["cr"], .carriageReturn), (["lf"], .lineFeed), (["extend", "ex"], .extension),
  (["sep", "se"], .separator), (["numeric", "nu"], .numeric), (["format", "fo"], .format),
  (["sp"], .space), (["lower", "lo"], .lower), (["upper", "up"], .upper), (["oletter", "le"], .letter),
  (["aterm", "at"], .fullStop), (["scontinue", "sc"], .continuation), (["sterm", "st"], .terminal),
  (["close", "cl"], .closing)]

def wordBreakNames : List (List String × Text.WordBreak) := [
  (["cr"], .carriageReturn), (["lf"], .lineFeed), (["newline", "nl"], .newline), (["zwj"], .joiner),
  (["extend"], .extension), (["regionalindicator", "ri"], .regionalIndicator),
  (["numeric", "nu"], .numeric), (["format", "fo"], .format), (["hebrewletter", "hl"], .hebrewLetter),
  (["katakana", "ka"], .katakana), (["singlequote", "sq"], .singleQuote),
  (["doublequote", "dq"], .doubleQuote), (["midnumlet", "mb"], .midNumberLetter),
  (["midletter", "ml"], .midLetter), (["midnum", "mn"], .midNumber),
  (["extendnumlet", "ex"], .connector), (["wsegspace"], .space), (["aletter", "le"], .letter)]

/-- The characters that have the class of this name. -/
def classOf? {α : Type} [DecidableEq α] (names : List (List String × α)) (classify : Char → Option α)
    (name : String) : Option CharSet :=
  (named? names name).map fun found => CharSet.established fun c => classify c = some found

/-- The set called by a name alone. -/
def namedSet? (name : List Char) : Option CharSet :=
  let name := looseName name
  (categoryOf? name).or ((scriptOf? name).or (propertyOf? name))

/-- The set called by a property and a value of it. -/
def valuedSet? (property value : List Char) : Option CharSet :=
  let property := looseName property
  let value := looseName value
  if property = "gc" || property = "generalcategory" then categoryOf? value
  else if property = "sc" || property = "script" then scriptOf? value
  else if property = "scx" || property = "scriptextensions" then scriptUseOf? value
  else if property = "age" then ageOf? value
  else if property = "gcb" || property = "graphemeclusterbreak" then
    classOf? graphemeBreakNames Text.graphemeBreak? value
  else if property = "sb" || property = "sentencebreak" then
    classOf? sentenceBreakNames Text.sentenceBreak? value
  else if property = "wb" || property = "wordbreak" then
    classOf? wordBreakNames Text.wordBreak? value
  else none

def asciiNames : List (String × CharSet) := [
  ("alnum", (·.isAlphanum)),
  ("alpha", (·.isAlpha)),
  ("ascii", (·.toNat < 128)),
  ("blank", fun c => c == ' ' || c == '\t'),
  ("cntrl", fun c => c.toNat < 32 || c.toNat == 127),
  ("digit", (·.isDigit)),
  ("graph", CharSet.range '!' '~'),
  ("lower", (·.isLower)),
  ("print", CharSet.range ' ' '~'),
  ("punct", fun c => CharSet.range '!' '~' c && !c.isAlphanum),
  ("space", fun c => c == ' ' || CharSet.range '\t' '\r' c),
  ("upper", (·.isUpper)),
  ("word", fun c => c.isAlphanum || c == '_'),
  ("xdigit", fun c => c.isDigit || CharSet.range 'a' 'f' c || CharSet.range 'A' 'F' c)]

def asciiSpace : CharSet := fun c => c == ' ' || CharSet.range '\t' '\r' c

def asciiWord : CharSet := fun c => c.isAlphanum || c == '_'

end Stencil.Pattern
