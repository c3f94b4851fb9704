/-!
Where a character of a tag stands: at the top level, inside quotes or brackets, or closing a bracket
that is not open. A backslash inside quotes takes the next character with it.
-/
namespace Stencil.Source

structure Nesting where
  /-- The quote that is open. -/
  quote : Option Char
  /-- Whether a backslash inside the quotes came just before. -/
  escaped : Bool
  /-- The closers that are awaited, innermost first. -/
  closers : List Char
deriving DecidableEq, Repr

inductive Place where
  | top
  | inside
  | stray
deriving DecidableEq, Repr

def isQuote (c : Char) : Bool := c == '"' || c == '\''

/-- The closer of an opening bracket. -/
def closerOf? (c : Char) : Option Char :=
  if c = '(' then some ')'
  else if c = '[' then some ']'
  else if c = '\x7b' then some '\x7d'
  else none

def isCloser (c : Char) : Bool := c == ')' || c == ']' || c == '\x7d'

namespace Nesting

def start : Nesting := ⟨none, false, []⟩

def isTop (nesting : Nesting) : Bool := nesting.quote.isNone && nesting.closers.isEmpty

def stepInQuote (nesting : Nesting) (quote c : Char) : Nesting :=
  if nesting.escaped then { nesting with escaped := false }
  else if c = '\\' then { nesting with escaped := true }
  else if c = quote then { nesting with quote := none }
  else nesting

def step (nesting : Nesting) (c : Char) : Nesting × Place :=
  match nesting.quote with
  | some quote => (nesting.stepInQuote quote c, .inside)
  | none =>
    if isQuote c then ({ nesting with quote := some c }, .inside)
    else match closerOf? c with
    | some closer => ({ nesting with closers := closer :: nesting.closers }, .inside)
    | none =>
      if isCloser c then
        if nesting.closers.head? = some c then
          ({ nesting with closers := nesting.closers.tail }, .inside)
        else (nesting, .stray)
      else (nesting, if nesting.closers.isEmpty then .top else .inside)

end Nesting

end Stencil.Source
