import Stencil.Expr.Reading
import Stencil.Node.Basic
import Stencil.Token.Basic

/-!
The arguments of the logic tags, read from the text behind their names.
-/
namespace Stencil.Arguments

open Stencil.Parser

def invalid {α : Type} (tag : LogicTag) (message : String) : Parser α :=
  throw (.invalidArguments tag.name message)

/-- Refuse a tag without arguments. -/
def required (tag : LogicTag) (message : String) : Parser Unit := do
  if ← isDone then invalid tag message

/-- The variables of a loop and what it goes over. -/
structure Loop where
  key : Option String
  item : String
  source : Expr

def loop (filters : Filters) (tag : LogicTag) : Parser Loop := do
  let first ← bindableName
  let (key, item) ← if ← acceptMark ',' then pure (some first, ← bindableName) else pure (none, first)
  if !(← acceptWord "in") then invalid tag s!"expected \"in\" after \"{item}\""
  return ⟨key, item, ← expression filters⟩

/-- The condition of an alternative: one named `else` has none unless `if` comes first. -/
def alternative (filters : Filters) (tag : LogicTag) : Parser (Option Expr) := do
  let conditional ← if tag.name ≠ "else" then pure true else acceptWord "if"
  if conditional then
    required tag "missing condition"
    return some (← expression filters)
  else return none

def assignment (filters : Filters) (tag : LogicTag) : Parser (String × Expr) := do
  let name ← bindableName
  if !(← acceptMark '=') then invalid tag s!"expected \"=\" after \"{name}\""
  return (name, ← expression filters)

def filter (filters : Filters) (tag : LogicTag) : Parser (Option FilterCall) := do
  required tag "missing filter name"
  filterName filters

/-- Names with or without commas between them, up to the closing bracket if there was an opening one. -/
def parametersUpTo (tag : LogicTag) (bracketed : Bool) : Nat → Parser (List String)
  | 0 => return []
  | more + 1 => do
    if ← (if bracketed then acceptMark ')' else pure false) then return []
    else if ← isDone then
      if bracketed then throw (.unclosedArgument tag.arguments) else return []
    else
      let name ← bindableName
      let _ ← acceptMark ','
      return name :: (← parametersUpTo tag bracketed more)

def definition (tag : LogicTag) : Parser (String × List String) := do
  required tag "missing macro name"
  let name ← bindableName
  let bracketed ← acceptMark '('
  return (name, ← parametersUpTo tag bracketed ((← remaining) + 1))

structure Inclusion where
  template : Expr
  ignoreMissing : Bool := false
  scope : Option Expr := none
  only : Bool := false

def modifiers (filters : Filters) (tag : LogicTag) : Nat → Inclusion → Parser Inclusion
  | 0, inclusion => return inclusion
  | more + 1, inclusion => do
    if ← isDone then return inclusion
    else if ← acceptWord "ignore" then
      if !(← acceptWord "missing") then invalid tag "expected \"missing\" after \"ignore\""
      modifiers filters tag more { inclusion with ignoreMissing := true }
    else if ← acceptWord "only" then modifiers filters tag more { inclusion with only := true }
    else if ← acceptWord "with" then
      modifiers filters tag more { inclusion with scope := some (← expression filters) }
    else return inclusion

def inclusion (filters : Filters) (tag : LogicTag) : Parser Inclusion := do
  required tag "missing template name"
  let template ← expression filters
  modifiers filters tag ((← remaining) + 1) { template }

def importation (filters : Filters) (tag : LogicTag) : Parser (Expr × String) := do
  required tag "missing template name"
  let template ← expression filters
  if !(← acceptWord "as") then invalid tag "expected \"as <name>\""
  return (template, ← bindableName)

/-- Read the arguments of a tag, all of them. -/
def read {α : Type} (tag : LogicTag) (parser : Parser α) : Except TemplateError α :=
  located tag.line (parser.runOn tag.arguments.toList)

end Stencil.Arguments
