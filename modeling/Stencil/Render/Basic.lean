import Stencil.Context
import Stencil.Engine.Store

/-!
Rendering as a computation. An expression is evaluated in a context that it cannot change; nodes change
the context as they go. What was loaded, and what nodes changed, stays when a rendering fails.
-/
namespace Stencil

/-- What the nodes of one template are rendered with. -/
structure Frame where
  env : Environment
  blocks : Blocks
  /-- The keys of the templates that are being rendered, outermost first; the last one is this one. -/
  ancestors : List String
  /-- Where the template came from. -/
  origin : Option String
  /-- How many macros are being called. -/
  macroDepth : Nat

abbrev EvalM := LoadM

structure RenderState where
  context : Context
  store : Store

abbrev RenderM := EStateM Fault RenderState

/-- The renderer of nodes that are reached by a name: blocks, macros and other templates. -/
abbrev Jump := Frame → List Node → RenderM String

namespace RenderM

def fail {α : Type} (error : TemplateError) : RenderM α := throw (.error error)

def context : RenderM Context := do return (← get).context

def changeContext (f : Context → Context) : RenderM Unit :=
  modify fun state => { state with context := f state.context }

/-- Evaluate in the context as it is. -/
def evaluate {α : Type} (eval : Context → EvalM α) : RenderM α := fun state =>
  match eval state.context state.store with
  | .ok result store => .ok result { state with store }
  | .error fault store => .error fault { state with store }

/-- Render in a context of its own, and answer what became of it. -/
def inside {α : Type} (scope : Context) (render : RenderM α) : EvalM (α × Context) := fun store =>
  match render ⟨scope, store⟩ with
  | .ok result state => .ok (result, state.context) state.store
  | .error fault state => .error fault state.store

/-- Change the context at the end, however the rendering ends. -/
def thenChange {α : Type} (render : RenderM α) (change : Context → Context) : RenderM α :=
  fun state =>
    match render state with
    | .ok result state => .ok result { state with context := change state.context }
    | .error fault state => .error fault { state with context := change state.context }

/-- The result, or another one if there is an error of a template. -/
def orElse {α : Type} (render : RenderM α) (recover : TemplateError → RenderM α) : RenderM α :=
  fun state =>
    match render state with
    | .ok result state => .ok result state
    | .error (.error error) state => recover error state
    | .error .tooDeep state => .error .tooDeep state

end RenderM

end Stencil
