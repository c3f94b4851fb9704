import Stencil.Value.Coercion

/-!
Steps into a value along a chain of keys. `null` counts as undefined, so a chain ends as soon as it
meets one.
-/
namespace Stencil.Value

/-- A text of digits, possibly after a plus sign, is an index. -/
def textIndex? (text : List Char) : Option Nat :=
  let digits := match text with
    | '+' :: rest => rest
    | text => text
  if digits.isEmpty || !digits.all Char.isDigit then none
  else some (Decimal.natOfDigits digits)

def index? : Value → Option Nat
  | string text => textIndex? text.toList
  | key => key.toWord?

/-- Objects are entered by the text of the key, arrays by an index; other values have no members. -/
def step (value key : Value) : Option Value :=
  match value with
  | object fields => Fields.get? fields key.display
  | array items => key.index?.bind (items[·]?)
  | _ => none

/-- The value at the end of the chain, if every value on the way to it and itself is defined. A step
from `null` leads nowhere, so only the last value has to be looked at. -/
def walk (root : Value) : List Value → Option Value
  | [] => if root.isNull then none else some root
  | key :: rest => (step root key).bind (walk · rest)

end Stencil.Value
