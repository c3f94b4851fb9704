import Stencil.Value.Json
import Stencil.Decimal.Reading
import Stencil.Text.Blank

/-!
How a template reads values of one kind as another: the text that is printed, truth, the number that a
value stands for, and the comparisons built on these.
-/
namespace Stencil

namespace Number

/-- A whole number is printed without a fraction, and no number with an exponent. -/
def display : Number → String
  | integer value => toString value
  | real value => Decimal.plain.write value

end Number

namespace Value

mutual

/-- The text that an output tag prints: nothing for `null`, the items of an array with commas between,
and the JSON text of an object. -/
def display : Value → String
  | null => ""
  | bool value => if value then "true" else "false"
  | number value => value.display
  | string value => value
  | array items => displayItems items
  | object fields => json (object fields)

def displayItems : List Value → String
  | [] => ""
  | [item] => display item
  | item :: rest => display item ++ "," ++ displayItems rest

end

/-- The number of a double: an integer if it is whole and below 2^53 in magnitude, and no number for an
infinite or undefined double. -/
def ofFloat (value : Float) : Value :=
  let word := value.toInt64
  if value.abs < 9007199254740992.0 && word.toFloat == value then ofInt word.toInt
  else if value.isFinite then number (.real value)
  else null

def isTruthy : Value → Bool
  | null => false
  | bool value => value
  | number value => value.toFloat != 0.0 && !value.toFloat.isNaN
  | string value => !value.isEmpty
  | array _ => true
  | object _ => true

def undefined : Float := 0.0 / 0.0

/-- The double that a value stands for, undefined if it stands for none. -/
def toNumber : Value → Float
  | null => 0.0
  | bool value => if value then 1.0 else 0.0
  | number value => value.toFloat
  | string value =>
      match Text.trim value.toList with
      | [] => 0.0
      | text => (Decimal.floatOf? text).getD undefined
  | array _ => undefined
  | object _ => undefined

/-- Same kind and same value; two numbers are compared as doubles. -/
def strictEq : Value → Value → Bool
  | number a, number b => a.toFloat == b.toFloat
  | a, b => a.same b

def isComposite : Value → Bool
  | array _ => true
  | object _ => true
  | _ => false

/-- Equality across kinds. `null` equals only itself; an array or object equals a scalar that prints
alike; all other pairs compare as numbers. -/
def looseEq (a b : Value) : Bool :=
  if a.isNull || b.isNull then a.isNull && b.isNull
  else match a, b with
    | string s, string t => s == t
    | a, b =>
        if a.isComposite && b.isComposite then a.same b
        else if a.isComposite || b.isComposite then a.display == b.display
        else a.toNumber == b.toNumber

def compareFloats (a b : Float) : Option Ordering :=
  if a < b then some .lt
  else if b < a then some .gt
  else if a == b then some .eq
  else none

/-- Two strings compare by code points, all else as numbers; nothing compares with an undefined number. -/
def compare : Value → Value → Option Ordering
  | string s, string t => some (Ord.compare s t)
  | a, b => compareFloats a.toNumber b.toNumber

/-- Whether the needle is an item of the array, a member's name, or a part of the text. -/
def contains (haystack needle : Value) : Bool :=
  match haystack with
  | array items => items.any (·.strictEq needle)
  | object fields => Fields.has fields needle.display
  | string text => Text.occursIn needle.display.toList text.toList
  | _ => false

end Value

end Stencil
