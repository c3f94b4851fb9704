import Stencil.Render.Eval

/-!
The run of one template inside others. A template that is being rendered already is not run again; a
layout that is computed is looked up first, in the context at that time.
-/
namespace Stencil

/-- A marker that shows an error in the output. -/
def errorMarker (error : TemplateError) : String :=
  "<pre>" ++ EscapeKind.html.apply error.message ++ "</pre>"

/-- How many blocks, macros and templates may run inside each other. -/
def Render.depthLimit : Nat := 1000000

namespace Template

/-- What is said when the template is one of those that are being rendered. -/
def circularMessage? (template : Template) (ancestors : List String) : Option String :=
  if ancestors.contains template.id then
    let last := ancestors.getLast?.getD ""
    some s!"Circular import of template \"{template.label}\" in \"{last}\"!"
  else none

/-- The name of a computed layout. -/
def layoutName (jump : Jump) (env : Environment) (template : Template) (layout : Expr)
    (context : Context) : EvalM String := do
  let frame : Frame := ⟨env, [], [], template.origin, 0⟩
  let name ← Eval.expr jump frame context layout
  if name.isNull then Eval.renderFault s!"layout of \"{template.label}\" is undefined"
  return name.display

/-- The program to run, with at most so many layouts above the template. The keys of the templates of
the chain so far are given. -/
def program (jump : Jump) (env : Environment) (context : Context) :
    Nat → List String → Template → EvalM Program
  | bound, chain, template =>
    match template.body with
    | .ready program => return program
    | .failed error => LoadM.fail error
    | .deferred name line tokens => do
      let name ← layoutName jump env template name context
      let parent := (← env.load name template.origin).template
      if chain.contains parent.id then
        LoadM.fail (.located line (.circularExtends parent.id))
      match bound with
      | 0 => throw .tooDeep
      | bound + 1 =>
        let layout ← program jump env context bound (chain ++ [parent.id]) parent
        LoadM.ofExcept (Program.extend env.scope tokens layout)

/-- The program to run, with room for as many layouts as there are. A chain of different templates ends
within as many steps as there are stored sources and kept templates; over other loaders it takes as much room
as it needs. -/
def wholeProgram (jump : Jump) (env : Environment) (context : Context) (template : Template) :
    EvalM Program :=
  if env.loader.isStored then do
    let bound := env.loader.size + (← get).cache.length + 1
    program jump env context bound [template.id] template
  else LoadM.unbounded fun bound => program jump env context bound [template.id] template

/-- Run the template in the context at hand. -/
def execute (jump : Jump) (env : Environment) (ancestors : List String) (template : Template) :
    RenderM String := do
  match template.circularMessage? ancestors, template.body with
  | some message, _ => RenderM.fail (.render message)
  | none, .failed error => return errorMarker error
  | none, _ =>
    let program ← RenderM.evaluate fun context => wholeProgram jump env context template
    jump ⟨env, program.blocks, ancestors ++ [template.id], template.origin, 0⟩ program.nodes

end Template

end Stencil
