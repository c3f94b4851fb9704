import Stencil.Source.Nesting
import Stencil.Text.Blank

/-!
String literals. A backslash takes the next character as it is, but for the three letters that stand for
a line feed, a tab and a carriage return; a backslash at the very end stands for itself.
-/
namespace Stencil.Source

/-- The character that a backslash before this one stands for. -/
def escaped (c : Char) : Char :=
  if c = 'n' then '\n'
  else if c = 't' then '\t'
  else if c = 'r' then '\r'
  else c

def unescape : List Char → List Char
  | '\\' :: c :: rest => escaped c :: unescape rest
  | c :: rest => c :: unescape rest
  | [] => []

/-- What the text between two equal quotes stands for, if the word is one. -/
def unquote? (word : List Char) : Option (List Char) :=
  match Text.trim word with
  | quote :: rest =>
    if isQuote quote && rest.getLast? = some quote then some (unescape rest.dropLast) else none
  | [] => none

end Stencil.Source
