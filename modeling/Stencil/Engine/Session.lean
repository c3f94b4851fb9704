import Stencil.Engine.Basic

/-!
A session with one engine: steps that compile, render and change it, and the templates that are held
under handles. A held template cannot be rendered once its engine is gone.
-/
namespace Stencil

/-- Whose engine a session works with. -/
inductive Ownership where
  /-- The session's own, which can be copied, and ends when the session drops it. -/
  | own
  /-- The one that all programs share, which never ends and offers less. -/
  | shared
deriving DecidableEq, Repr

structure Session where
  engine : Engine
  ownership : Ownership
  /-- Whether the session still has its engine. -/
  attached : Bool := true
  handles : Fields Compiled := []

inductive Action where
  | put (name source : String)
  | compile (handle source : String) (options : CompileOptions)
  | compileFile (handle name : String)
  | render (handle : String) (context : Context) (ancestors : List String)
  | renderSource (source : String) (context : Context)
  | renderFile (name : String) (context : Context)
  | init (config : Config) (host : Host)
  | clearCache
  | keys
  | clone
  | drop

inductive Answer where
  | done
  | output (text : String)
  /-- A template that is now held, and the other handles that hold the very same one. -/
  | compiled (template : Template) (sameAs : List String)
  | keys (keys : List String)
  | failed (error : TemplateError)
  | tooDeep
  | noTemplate
  | noEngine

namespace Session

def ofEngine (engine : Engine) (ownership : Ownership) : Session := { engine, ownership }

def failure : Fault → Answer
  | .error error => .failed error
  | .tooDeep => .tooDeep

/-- The handles other than this one that hold the template with the stamp. -/
def holdersOf (handles : Fields Compiled) (handle : String) (stamp : Nat) : List String :=
  ((handles.filter fun (name, held) => name != handle && held.stamp == stamp).map (·.1)).mergeSort
    fun a b => decide (a ≤ b)

/-- Hold a template, unless it failed to compile. -/
def hold (session : Session) (handle : String) (result : Except Fault Compiled × Engine) :
    Session × Answer :=
  let session := { session with engine := result.2 }
  match result.1 with
  | .ok compiled =>
    ({ session with handles := Fields.put session.handles handle compiled },
      .compiled compiled.template (holdersOf session.handles handle compiled.stamp))
  | .error fault => (session, failure fault)

def rendered (session : Session) (result : Except Fault String × Engine) : Session × Answer :=
  ({ session with engine := result.2 },
    match result.1 with
    | .ok text => .output text
    | .error fault => failure fault)

/-- Whether an action works on an engine of the session's own only. -/
def needsOwn : Action → Bool
  | .renderSource .. => true
  | .clearCache => true
  | .keys => true
  | .clone => true
  | _ => false

/-- Whether an action works without an engine. -/
def worksAlone : Action → Bool
  | .put .. => true
  | .render .. => true
  | _ => false

/-- Whether the engine of held templates still exists. -/
def engineExists (session : Session) : Bool := session.attached || session.ownership == .shared

/-- An action whose engine is there. -/
def act (session : Session) : Action → Session × Answer
  | .put name source =>
    let engine := { session.engine with loader := session.engine.loader.put name source }
    ({ session with engine }, .done)
  | .compile handle source options =>
    session.hold handle (session.engine.compile source options)
  | .compileFile handle name => session.hold handle (session.engine.compileFile name)
  | .render handle context ancestors =>
    match Fields.get? session.handles handle with
    | none => (session, .noTemplate)
    | some held =>
      if session.engineExists then
        session.rendered (session.engine.renderHeld held.template context ancestors)
      else (session, .failed (.engineGone held.template.label))
  | .renderSource source context => session.rendered (session.engine.render source context)
  | .renderFile name context => session.rendered (session.engine.renderFile name context)
  | .init config host => ({ session with engine := session.engine.init config host }, .done)
  | .clearCache => ({ session with engine := session.engine.clearCache }, .done)
  | .keys => (session, .keys session.engine.cachedKeys)
  | .clone => (session, .done)
  | .drop => ({ session with attached := false }, .done)

/-- One action, refused if it needs an engine that is not there. -/
def step (session : Session) (action : Action) : Session × Answer :=
  if !worksAlone action && (!session.attached || (needsOwn action && session.ownership == .shared))
  then (session, .noEngine)
  else session.act action

def run : Session → List Action → List Answer
  | _, [] => []
  | session, action :: rest =>
    let (session, answer) := session.step action
    answer :: run session rest

end Session

end Stencil
