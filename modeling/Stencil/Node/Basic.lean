import Stencil.Escape
import Stencil.Expr.Basic
import Stencil.Host

/-!
Compiled templates: nodes to be rendered one after another, and the blocks they are rendered through.
-/
namespace Stencil

inductive Node where
  | text (text : String)
  | output (expr : Expr) (filters : List FilterCall) (escape : Option EscapeKind)
  /-- The first branch whose condition holds. -/
  | choice (branches : List (Expr × List Node)) (otherwise : List Node)
  /-- The body for every item, or another body if there are none. -/
  | loop (key : Option String) (item : String) (source : Expr) (body empty : List Node)
  | assign (name : String) (value : Expr)
  /-- The rendered body through a filter; an unknown one leaves it as it is. -/
  | filter (call : Option FilterCall) (body : List Node)
  | define (name : String) (parameters : List String) (body : List Node)
  | inclusion (template : Expr) (ignoreMissing : Bool) (scope : Option Expr) (only : Bool)
  /-- The callables of another template, known behind the name of a space. -/
  | importation (template : Expr) (space : String)
  /-- The block of this name in the template that is being rendered. -/
  | block (name : String)
  /-- Nodes of a layout, or of the block that the one around it takes the place of. -/
  | fragment (nodes : List Node)
  | group (nodes : List Node)
  | host (name : String) (tag : HostTag) (arguments : List Expr) (body : List Node)
  /-- Separates the branches of a choice or a loop until these are told apart. -/
  | alternative (condition : Option Expr) (line : Nat)

instance : Inhabited Node := ⟨.text ""⟩

/-- The bodies of blocks by name. -/
abbrev Blocks := Fields (List Node)

structure Program where
  nodes : List Node
  blocks : Blocks

end Stencil
