import Stencil.Engine.Loader
import Stencil.Engine.Settings
import Stencil.Engine.Template
import Stencil.Token.Tree

/-!
The compiled templates that an engine keeps, and how templates are loaded into it. A template is kept
under its key, and stays there until the store is cleared; what was asked for is not forgotten. Loading a
template loads the layouts that it names; a layout that is being loaded already is a circle.
-/
namespace Stencil

/-- Why a load or a rendering stopped: an error of a template, or nesting beyond all bounds. -/
inductive Fault where
  | error (error : TemplateError)
  | tooDeep

/-- Names were followed into each other deeper than there was room. -/
def EndsTooDeep {σ α : Type} (result : EStateM.Result Fault σ α) : Prop :=
  ∃ s, result = .error .tooDeep s

instance {σ α : Type} : DecidablePred (@EndsTooDeep σ α)
  | .error .tooDeep s => isTrue ⟨s, rfl⟩
  | .error (.error _) _ => isFalse nofun
  | .ok _ _ => isFalse nofun

structure Store where
  cache : Fields Compiled := []
  nextStamp : Nat := 0
  /-- The paths that a template was asked for at, the last one first. -/
  asked : List String := []

namespace Store

def get? (store : Store) (key : String) : Option Compiled := Fields.get? store.cache key

def clear (store : Store) : Store := { store with cache := [] }

def keys (store : Store) : List String :=
  (Fields.names store.cache).mergeSort fun a b => decide (a ≤ b)

end Store

/-- Computations that load templates. What they put into the store stays there when they fail. -/
abbrev LoadM := EStateM Fault Store

/-- What templates are loaded with. -/
structure Environment where
  settings : Settings
  loader : Loader

namespace LoadM

def fail {α : Type} (error : TemplateError) : LoadM α := throw (.error error)

def ofExcept {α : Type} : Except TemplateError α → LoadM α
  | .ok result => return result
  | .error error => fail error

/-- Take note of a path. -/
def ask (path : String) : LoadM Unit :=
  modify fun store => { store with asked := path :: store.asked }

/-- A compiled template of its own. -/
def stamp (template : Template) : LoadM Compiled :=
  modifyGet fun store => (⟨store.nextStamp, template⟩, { store with nextStamp := store.nextStamp + 1 })

/-- Keep a compiled template unless there is one under the key, and answer the one that is kept. -/
def keep (key : String) (compiled : Compiled) : LoadM Compiled :=
  modifyGet fun store =>
    match store.get? key with
    | some kept => (kept, store)
    | none => (compiled, { store with cache := Fields.put store.cache key compiled })

/-- The template under the key, compiled if it is not in the store or nothing is kept. -/
def throughStore (caching : Bool) (key : String) (compile : LoadM Template) : LoadM Compiled := do
  if caching then
    match (← get).get? key with
    | some kept => return kept
    | none => keep key (← stamp (← compile))
  else stamp (← compile)

/-- What becomes of a load that is given more and more room. -/
inductive Fate {α : Type} (load : Nat → LoadM α) (store : Store) where
  | ends (room : Nat) (hends : ¬ EndsTooDeep (load room store))
  | never (hnever : ∀ room, EndsTooDeep (load room store))

instance {α : Type} (load : Nat → LoadM α) (store : Store) : Nonempty (Fate load store) := by
  by_cases h : ∃ room, ¬ EndsTooDeep (load room store)
  · obtain ⟨room, hroom⟩ := h
    exact ⟨.ends room hroom⟩
  · exact ⟨.never fun room => Classical.not_not.mp fun hroom => h ⟨room, hroom⟩⟩

/-- Try one room after the other, from this one on. Where no room is enough this goes on forever. -/
def search {α : Type} (load : Nat → LoadM α) (store : Store) : Nat → Fate load store :=
  WellFounded.partialExtrinsicFix (fun next room => next = room + 1) fun room next =>
    if hdeep : EndsTooDeep (load room store) then next (room + 1) rfl else .ends room hdeep

/-- Load with as much room as it takes. A load for which no room is enough never ends: it goes on up and up,
and has no other outcome than that. -/
def unbounded {α : Type} (load : Nat → LoadM α) : LoadM α := fun store =>
  match search load store 0 with
  | .ends room _ => load room store
  | .never _ => .error .tooDeep store

end LoadM

namespace Environment

open LoadM

def scope (env : Environment) : Scope := ⟨env.settings.filters, env.settings.tags, none⟩

/-- The key of the template called `name` in the template at `from?`. -/
def resolve (env : Environment) (name : String) (from? : Option String) :
    Except TemplateError String :=
  match Location.resolve env.settings.root from? name with
  | .ok path => .ok path
  | .error fault => .error (.load name fault.message)

def source (env : Environment) (path : String) : Except TemplateError String :=
  match env.loader.load path with
  | .ok source => .ok source
  | .error message => .error (.load path message)

/-- The body of a template that extends a layout by name. -/
def bodyOver (env : Environment) (tokens : List Token) (name : String) (line : Nat)
    (layout : Template) : Except TemplateError Body :=
  match layout.body with
  | .ready program => (Program.extend env.scope tokens program).map .ready
  | .deferred .. => (Program.check env.scope tokens).map fun _ =>
      .deferred (.literal (.string name)) line tokens
  | .failed error => .error error

/-- Compile a source, given how layouts are loaded and the keys of the templates that are being loaded
around it. -/
def build (env : Environment) (load : String → LoadM Compiled) (around : List String)
    (id source : String) (origin : Option String) : LoadM Template := do
  let tokens ← ofExcept (Token.ofSource env.settings.tags env.settings.autoescape source)
  match ← ofExcept (Token.layout? env.scope tokens) with
  | none =>
    let program ← ofExcept (Program.ofTokens env.scope tokens)
    return ⟨id, origin, none, .ready program⟩
  | some (.computed layout, line) =>
    ofExcept (Program.check env.scope tokens)
    return ⟨id, origin, none, .deferred layout line tokens⟩
  | some (.named name, line) =>
    let key ← ofExcept (env.resolve name origin)
    if key = id || around.contains key then
      fail (.located line (.circularExtends key))
    let layout ← load key
    let body ← ofExcept (env.bodyOver tokens name line layout.template)
    return ⟨id, origin, some key, body⟩

/-- Load the template at a path, with at most so many layouts above it. -/
def loadPath (env : Environment) : Nat → List String → String → LoadM Compiled
  | 0, _, _ => throw .tooDeep
  | more + 1, around, path => do
    ask path
    throughStore env.settings.cache path do
      let source ← ofExcept (env.source path)
      env.build (env.loadPath more (path :: around)) around path source (some path)

/-- A chain of stored layouts that are all different ends after as many steps as there are sources, or one
step later at a path that has none. -/
def layoutBound (env : Environment) : Nat := env.loader.size + 1

/-- Load the template at a path, however many layouts there are above it. -/
def loadFile (env : Environment) (around : List String) (path : String) : LoadM Compiled :=
  if env.loader.isStored then env.loadPath env.layoutBound around path
  else unbounded fun room => env.loadPath room around path

/-- The template called `name` in the template at `from?`. -/
def load (env : Environment) (name : String) (from? : Option String) : LoadM Compiled := do
  let path ← ofExcept (env.resolve name from?)
  env.loadFile [] path

/-- Compile a source under a key. -/
def compile (env : Environment) (id source : String) (origin : Option String) : LoadM Template :=
  env.build (env.loadFile [id]) [] id source origin

end Environment

end Stencil
