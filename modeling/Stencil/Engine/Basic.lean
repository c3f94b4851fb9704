import Stencil.Render.Nodes

/-!
An engine: settings, a loader, and the templates it keeps. It compiles sources and renders templates; a
new configuration makes it forget what it keeps.
-/
namespace Stencil

structure Engine where
  settings : Settings
  loader : Loader
  store : Store := {}

/-- How a source is to be compiled. -/
structure CompileOptions where
  /-- The key, and the place that relative names start from; otherwise the source is the key. -/
  filename : Option String := none
  /-- Whether the template is kept, if not as the engine does. -/
  cache : Option Bool := none
  /-- Whether a source that does not compile gives a template that renders the error. -/
  allowErrors : Bool := false

namespace Engine

def new (config : Config) (host : Host) (loader : Loader) : Engine :=
  { settings := .of config host, loader }

def env (engine : Engine) : Environment := ⟨engine.settings, engine.loader⟩

/-- Load with the engine, which keeps what was loaded. -/
def run {α : Type} (engine : Engine) (load : LoadM α) : Except Fault α × Engine :=
  match load engine.store with
  | .ok result store => (.ok result, { engine with store })
  | .error fault store => (.error fault, { engine with store })

/-- Take on another configuration and forget all templates. -/
def init (engine : Engine) (config : Config) (host : Host) : Engine :=
  { engine with settings := .of config host, store := engine.store.clear }

def clearCache (engine : Engine) : Engine := { engine with store := engine.store.clear }

def cachedKeys (engine : Engine) : List String := engine.store.keys

/-- The template of a source, or the template that renders why there is none. -/
def compileSource (env : Environment) (source : String) (options : CompileOptions) :
    LoadM Compiled := fun store =>
  let key := options.filename.getD source
  let caching := options.cache.getD env.settings.cache
  match LoadM.throughStore caching key (env.compile key source options.filename) store with
  | .ok compiled store => .ok compiled store
  | .error (.error error) store =>
    if options.allowErrors then
      LoadM.stamp ⟨key, options.filename, none, .failed error⟩ store
    else .error (.error error) store
  | .error .tooDeep store => .error .tooDeep store

/-- The template called `name`. -/
def compileNamed (env : Environment) (name : String) : LoadM Compiled := env.load name none

/-- The output of a template. Unless the engine debugs, an error leaves a marker. -/
def renderTemplate (env : Environment) (template : Template) (context : Context)
    (ancestors : List String) : LoadM String := fun store =>
  match template.execute (Render.upToDepth Render.depthLimit) env ancestors ⟨context, store⟩ with
  | .ok text state => .ok text state.store
  | .error (.error error) state =>
    if env.settings.debug then .error (.error error) state.store
    else .ok (errorMarker error) state.store
  | .error .tooDeep state => .error .tooDeep state.store

def compile (engine : Engine) (source : String) (options : CompileOptions) :
    Except Fault Compiled × Engine :=
  engine.run (compileSource engine.env source options)

def compileFile (engine : Engine) (name : String) : Except Fault Compiled × Engine :=
  engine.run (compileNamed engine.env name)

def renderHeld (engine : Engine) (template : Template) (context : Context)
    (ancestors : List String) : Except Fault String × Engine :=
  engine.run (renderTemplate engine.env template context ancestors)

/-- Compile a source and render it. -/
def render (engine : Engine) (source : String) (context : Context) : Except Fault String × Engine :=
  engine.run do
    let compiled ← compileSource engine.env source {}
    renderTemplate engine.env compiled.template context []

def renderFile (engine : Engine) (name : String) (context : Context) :
    Except Fault String × Engine :=
  engine.run do
    let compiled ← compileNamed engine.env name
    renderTemplate engine.env compiled.template context []

end Engine

end Stencil
