import Stencil.Proofs.Agree
import Stencil.Proofs.Fields
import Stencil.Proofs.Node.Parts
import Stencil.Render.Nodes

/-!
What can be promised of renderings. A guarantee says what is known of the nodes that are rendered, what
follows for the texts they render to, and what for the macros they define. Two renderings are compared from
equal contexts, whose macros have known bodies, and from related stores.
-/
namespace Stencil

/-- What is known of nodes, and what follows for texts and for the bodies of macros. -/
structure Guarantee where
  node : Node → Prop
  text : String → Prop
  body : List Node → Prop
  empty : text ""
  append : ∀ {a b}, text a → text b → text (a ++ b)
  literal : ∀ {t}, node (.text t) → text t
  output : ∀ {e filters}, node (.output e filters none) → ∀ value : Value, text value.display
  escaped : ∀ {e filters kind}, node (.output e filters (some kind)) →
    ∀ value : Value, text (kind.apply value.display)
  filtered : ∀ {call body}, node (.filter (some call) body) → ∀ value : Value, text value.display
  hosted : ∀ {name tag arguments body}, node (.host name tag arguments body) → ∀ t, text t
  within : ∀ {nodes}, body nodes → ∀ part ∈ Node.partsOf nodes, node part
  defined : ∀ {name parameters nodes}, node (.define name parameters nodes) →
    (∀ part ∈ Node.partsOf nodes, node part) → body nodes

/-- Nothing is known, and nothing follows. -/
def Guarantee.vacuous : Guarantee where
  node _ := True
  text _ := True
  body _ := True
  empty := True.intro
  append _ _ := True.intro
  literal _ := True.intro
  output _ _ := True.intro
  escaped _ _ := True.intro
  filtered _ _ := True.intro
  hosted _ _ := True.intro
  within _ _ _ := True.intro
  defined _ _ := True.intro

namespace Guarantee

variable (G : Guarantee)

/-- Everything is known of the nodes and of all nodes inside them. -/
def KnownNodes (nodes : List Node) : Prop := ∀ part ∈ Node.partsOf nodes, G.node part

def KnownCallable : Callable → Prop
  | .macroBody _ _ body => G.body body
  | .native _ => True

def KnownContext (context : Context) : Prop := context.callables.AllValues G.KnownCallable

def KnownBlocks (blocks : Blocks) : Prop := blocks.AllValues G.KnownNodes

/-- Equal contexts with known macros, and related stores. -/
def Related (S : Comparison Store Store) : Comparison RenderState RenderState where
  related s t := s.context = t.context ∧ G.KnownContext s.context ∧ S.related s.store t.store
  beyond t := G.KnownContext t.context ∧ S.beyond t.store

end Guarantee

end Stencil
