import Stencil.Error

/-!
Names of variables: letters, digits, low lines and dollar signs of ASCII, with no digit at the start.
Words of the language and names with two low lines at the start cannot be bound or looked up.
-/
namespace Stencil

def isNameStart (c : Char) : Bool := c.isAlpha || c == '_' || c == '$'

def isNamePart (c : Char) : Bool := c.isAlphanum || c == '_' || c == '$'

def isIdentifier (name : String) : Bool :=
  match name.toList with
  | c :: rest => isNameStart c && rest.all isNamePart
  | [] => false

def reservedWords : List String := ["and", "or", "not", "in", "if", "else", "for", "with", "as"]

def isHidden (name : String) : Bool := ['_', '_'].isPrefixOf name.toList

/-- Why the name cannot name a variable. -/
def nameFault? (name : String) : Option String :=
  if isHidden name then some "names starting with \"__\" are reserved"
  else if reservedWords.contains name then some "reserved keyword"
  else if !isIdentifier name then some "not a valid identifier"
  else none

def checkName (name : String) : Except Complaint Unit :=
  match nameFault? name with
  | some reason => .error (.invalidVariable name reason)
  | none => .ok ()

end Stencil
