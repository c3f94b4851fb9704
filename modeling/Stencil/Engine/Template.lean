import Stencil.Node.Inheritance

/-!
Compiled templates. A template whose layout is computed, or is itself such a template, waits for its
layout until it is rendered.
-/
namespace Stencil

inductive Body where
  | ready (program : Program)
  | deferred (layout : Expr) (line : Nat) (tokens : List Token)
  /-- Did not compile, and renders the error. -/
  | failed (error : TemplateError)

structure Template where
  /-- The key: the path, or the source itself. -/
  id : String
  /-- Where the template came from, for relative names. -/
  origin : Option String
  /-- The key of a layout that the source names. -/
  parent : Option String
  body : Body

/-- A template as it was compiled once. Another compilation of the same source has another stamp. -/
structure Compiled where
  stamp : Nat
  template : Template

namespace Template

/-- Whether the layouts were all known when the template was compiled. -/
def isReady (template : Template) : Bool :=
  match template.body with
  | .ready _ => true
  | _ => false

/-- The names with one of each, in order. -/
def sortedNames (names : List String) : List String :=
  (names.mergeSort fun a b => decide (a ≤ b)).eraseReps

/-- The names of the blocks that the template is rendered through. -/
def blockNames (template : Template) : List String :=
  match template.body with
  | .ready program => sortedNames (Fields.names program.blocks)
  | .deferred _ _ tokens => sortedNames (Token.blockNamesOf tokens)
  | .failed _ => []

/-- The path, or the start of the source. -/
def label (template : Template) : String :=
  match template.origin with
  | some path => path
  | none =>
    let chars := template.id.toList
    if 40 < chars.length then String.ofList (chars.take 40) ++ "..." else template.id

end Template

end Stencil
