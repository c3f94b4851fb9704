import Stencil.Fields

/-!
The data a template renders: the values of JSON. A number keeps whether it was written as an integer,
because `1` and `1.0` are told apart by plain equality and by the written form. The members of an
object keep their order; equality does not look at it.
-/
namespace Stencil

/-- An integer lies between -2^63 and 2^64 - 1; a real number is finite. -/
inductive Number where
  | integer (value : Int)
  | real (value : Float)

inductive Value where
  | null
  | bool (value : Bool)
  | number (value : Number)
  | string (value : String)
  | array (items : List Value)
  | object (fields : List (String × Value))

instance : Inhabited Value := ⟨.null⟩

namespace Number

def toFloat : Number → Float
  | integer value => Float.ofInt value
  | real value => value

/-- Numbers of the two kinds are never equal here. -/
def same : Number → Number → Bool
  | integer a, integer b => a == b
  | real a, real b => a == b
  | _, _ => false

end Number

namespace Value

def ofInt (value : Int) : Value := .number (.integer value)

def ofNat (value : Nat) : Value := ofInt value

def isNull : Value → Bool
  | null => true
  | _ => false

mutual

/-- Equality: arrays item by item, objects by their members in any order. -/
def same : Value → Value → Bool
  | null, null => true
  | bool a, bool b => a == b
  | number a, number b => a.same b
  | string a, string b => a == b
  | array a, array b => sameItems a b
  | object a, object b => a.length == b.length && sameMembers a b
  | _, _ => false

def sameItems : List Value → List Value → Bool
  | [], [] => true
  | a :: as, b :: bs => same a b && sameItems as bs
  | _, _ => false

/-- Every member of the first list has an equal one of the same name in the second. -/
def sameMembers : List (String × Value) → List (String × Value) → Bool
  | [], _ => true
  | (key, a) :: rest, fields =>
      (match Fields.get? fields key with
      | some b => same a b
      | none => false) && sameMembers rest fields

end

/-- The integers that a 64-bit word without a sign can hold. -/
def toWord? : Value → Option Nat
  | number (.integer value) => if 0 ≤ value then some value.toNat else none
  | _ => none

/-- The integers that a 64-bit word with a sign can hold. -/
def toSignedWord? : Value → Option Int
  | number (.integer value) => if value < 0x8000000000000000 then some value else none
  | _ => none

end Value

end Stencil
