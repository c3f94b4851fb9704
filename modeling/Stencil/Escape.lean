/-!
Output escaping. HTML escaping replaces the five special characters by entities, but leaves an
ampersand alone that already begins one of these entities, so that escaped text is not escaped twice.
JavaScript escaping writes each character that could end a string literal or a script as four
hexadecimal digits.
-/
namespace Stencil

inductive EscapeKind where
  | html
  | js
deriving DecidableEq, Repr

namespace EscapeKind

def ofName? (name : String) : Option EscapeKind :=
  if name = "html" then some .html
  else if name = "js" then some .js
  else none

def name : EscapeKind → String
  | html => "html"
  | js => "js"

/-- What follows the ampersand of an entity. -/
def entities : List (List Char) :=
  [['a', 'm', 'p', ';'], ['l', 't', ';'], ['g', 't', ';'], ['q', 'u', 'o', 't', ';'], ['#', '3', '9', ';']]

def opensEntity (rest : List Char) : Bool := entities.any (·.isPrefixOf rest)

/-- The HTML form of a character, given what follows it. -/
def htmlForm (c : Char) (rest : List Char) : List Char :=
  if c = '&' then if opensEntity rest then ['&'] else ['&', 'a', 'm', 'p', ';']
  else if c = '<' then ['&', 'l', 't', ';']
  else if c = '>' then ['&', 'g', 't', ';']
  else if c = '"' then ['&', 'q', 'u', 'o', 't', ';']
  else if c = '\'' then ['&', '#', '3', '9', ';']
  else [c]

def escapeHtml : List Char → List Char
  | [] => []
  | c :: rest => htmlForm c rest ++ escapeHtml rest

def isScriptSpecial (c : Char) : Bool :=
  c == '\\' || c == '"' || c == '\'' || c == '<' || c == '>' || c == '&' || c == '=' || c == '-'
    || c == ';' || c == '\u2028' || c == '\u2029'

/-- An upper-case hexadecimal digit. -/
def hexDigit (n : Nat) : Char := (Nat.digitChar (n % 16)).toUpper

def unicodeEscape (c : Char) : List Char :=
  let n := c.toNat
  ['\\', 'u', hexDigit (n / 4096), hexDigit (n / 256), hexDigit (n / 16), hexDigit n]

def scriptForm (c : Char) : List Char := if isScriptSpecial c then unicodeEscape c else [c]

def escapeScript (text : List Char) : List Char := text.flatMap scriptForm

def apply (kind : EscapeKind) (text : String) : String :=
  match kind with
  | html => String.ofList (escapeHtml text.toList)
  | js => String.ofList (escapeScript text.toList)

end EscapeKind

end Stencil
