import Stencil.Node.Basic

/-!
What a template renders against: variables, and the functions and macros that are known so far.
-/
namespace Stencil

inductive Callable where
  | macroBody (name : String) (parameters : List String) (body : List Node)
  | native (function : NativeFunction)

structure Context where
  /-- The variables. -/
  bindings : Fields Value := []
  callables : Fields Callable := []

namespace Context

def empty : Context := {}

/-- Only an object brings variables. -/
def ofValue : Value → Context
  | .object fields => { bindings := fields }
  | _ => empty

def get? (context : Context) (name : String) : Option Value := Fields.get? context.bindings name

def put (context : Context) (name : String) (value : Value) : Context :=
  { context with bindings := Fields.put context.bindings name value }

/-- The variable as it was saved, or none if it was not there. -/
def restore (context : Context) (name : String) (saved : Option Value) : Context :=
  { context with bindings := Fields.restore context.bindings name saved }

def extend (context : Context) (bindings : Fields Value) : Context :=
  { context with bindings := Fields.merge context.bindings bindings }

def define (context : Context) (name : String) (callable : Callable) : Context :=
  { context with callables := Fields.put context.callables name callable }

/-- All callables of another context, their names behind that of a space and a low line. -/
def defineAll (context : Context) (space : String) (callables : Fields Callable) : Context :=
  callables.foldl (fun context (name, callable) => context.define (space ++ "_" ++ name) callable)
    context

end Context

end Stencil
