import Stencil.Filter.Basic

/-!
What the host program adds to the language: functions, filters and tags. A host tag sees its arguments,
its rendered body, the variables in scope and which functions are, and the extensions of the engine.
-/
namespace Stencil

/-- A function of the host: a value for the arguments, or a message. -/
abbrev NativeFunction := List Value → Except String Value

structure TagCall where
  arguments : List Value
  /-- The rendered body of a tag that has an end. -/
  body : Option String
  bindings : Fields Value
  callables : List String
  extensions : Fields Value

structure HostTag where
  /-- Whether the tag has a body and an end tag. -/
  ends : Bool
  render : TagCall → Except String String

/-- The additions of one engine, by name. -/
structure Host where
  filters : Filters := []
  functions : Fields NativeFunction := []
  tags : Fields HostTag := []
  extensions : Fields Value := []

end Stencil
