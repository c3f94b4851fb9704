import Stencil.Value.Basic
import Stencil.Decimal.Layout

/-!
The JSON text of a value, on one line without spaces or indented. Inside strings only the quote, the
backslash and the control characters below U+0020 are escaped.
-/
namespace Stencil

namespace Json

def hexDigit (n : Nat) : Char := Nat.digitChar n

def escaped (c : Char) : List Char :=
  if c = '"' then ['\\', '"']
  else if c = '\\' then ['\\', '\\']
  else if c = '\n' then ['\\', 'n']
  else if c = '\r' then ['\\', 'r']
  else if c = '\t' then ['\\', 't']
  else if c = '\x08' then ['\\', 'b']
  else if c = '\x0c' then ['\\', 'f']
  else if c.toNat < 0x20 then ['\\', 'u', '0', '0', hexDigit (c.toNat / 16), hexDigit (c.toNat % 16)]
  else [c]

def quoted (text : String) : String := String.ofList ('"' :: text.toList.flatMap escaped ++ ['"'])

end Json

namespace Number

def json : Number → String
  | integer value => toString value
  | real value => Decimal.exact.write value

end Number

namespace Value

mutual

/-- The value on one line, without spaces. -/
def json : Value → String
  | null => "null"
  | bool value => if value then "true" else "false"
  | number value => value.json
  | string value => Json.quoted value
  | array items => "[" ++ jsonItems items ++ "]"
  | object fields => "\x7b" ++ jsonMembers fields ++ "\x7d"

def jsonItems : List Value → String
  | [] => ""
  | [item] => json item
  | item :: rest => json item ++ "," ++ jsonItems rest

def jsonMembers : List (String × Value) → String
  | [] => ""
  | [(name, item)] => Json.quoted name ++ ":" ++ json item
  | (name, item) :: rest => Json.quoted name ++ ":" ++ json item ++ "," ++ jsonMembers rest

end

/-- A new line, indented. -/
def lineStart (width depth : Nat) : String := String.ofList ('\n' :: List.replicate (width * depth) ' ')

mutual

/-- The value over several lines, each level indented by so many spaces more. -/
def indented (width depth : Nat) : Value → String
  | array [] => "[]"
  | array (item :: rest) =>
      "[" ++ indentedItems width (depth + 1) (item :: rest) ++ lineStart width depth ++ "]"
  | object [] => "\x7b\x7d"
  | object (field :: rest) =>
      "\x7b" ++ indentedMembers width (depth + 1) (field :: rest) ++ lineStart width depth ++ "\x7d"
  | scalar => scalar.json

def indentedItems (width depth : Nat) : List Value → String
  | [] => ""
  | [item] => lineStart width depth ++ indented width depth item
  | item :: rest =>
      lineStart width depth ++ indented width depth item ++ "," ++ indentedItems width depth rest

def indentedMembers (width depth : Nat) : List (String × Value) → String
  | [] => ""
  | [(name, item)] =>
      lineStart width depth ++ Json.quoted name ++ ": " ++ indented width depth item
  | (name, item) :: rest =>
      lineStart width depth ++ Json.quoted name ++ ": " ++ indented width depth item ++ ","
        ++ indentedMembers width depth rest

end

end Value

end Stencil
