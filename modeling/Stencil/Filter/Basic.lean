import Stencil.Value.Coercion

/-!
Filters: total functions from a value and its arguments to a value. An input of the wrong kind gives the
empty text. The filters called `raw`, `e` and `escape` are safe: an output tag that uses one of them is
not escaped again.
-/
namespace Stencil

abbrev Filter := Value → List Value → Value

abbrev Filters := Fields Filter

namespace Filters

/-- The value through the filters of the chain, one after another; unknown names leave it as it is. -/
def apply (filters : Filters) (value : Value) (chain : List (String × List Value)) : Value :=
  chain.foldl (fun current (name, arguments) =>
    match Fields.get? filters name with
    | some filter => filter current arguments
    | none => current) value

end Filters

namespace Filter

def safeNames : List String := ["raw", "e", "escape"]

def isSafe (name : String) : Bool := safeNames.contains name

def emptyText : Value := .string ""

/-- The text of an argument that is given and not `null`. -/
def textArgument (arguments : List Value) (index : Nat) : Option String :=
  (arguments[index]?.filter (!·.isNull)).map Value.display

mutual

/-- Every text in the value through a function on texts; scalars of other kinds are printed first. -/
def mapText (f : List Char → List Char) : Value → Value
  | .array items => .array (mapTextItems f items)
  | .object fields => .object (mapTextMembers f fields)
  | scalar => .string (String.ofList (f scalar.display.toList))

def mapTextItems (f : List Char → List Char) : List Value → List Value
  | [] => []
  | item :: rest => mapText f item :: mapTextItems f rest

def mapTextMembers (f : List Char → List Char) : List (String × Value) → List (String × Value)
  | [] => []
  | (name, item) :: rest => (name, mapText f item) :: mapTextMembers f rest

end

end Filter

end Stencil
