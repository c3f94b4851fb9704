import Stencil.Node.Basic

/-!
The parts of a node: the node itself and all nodes inside it, at any depth, those of the fragments that
parent tags stand for included. A block is a part by its name only; its body is looked up elsewhere.
-/
namespace Stencil.Node

mutual

def parts : Node → List Node
  | .text t => [.text t]
  | .output e filters escape => [.output e filters escape]
  | .choice branches otherwise =>
    .choice branches otherwise :: (partsOfBranches branches ++ partsOf otherwise)
  | .loop key item source body otherwise =>
    .loop key item source body otherwise :: (partsOf body ++ partsOf otherwise)
  | .assign name value => [.assign name value]
  | .filter call body => .filter call body :: partsOf body
  | .define name parameters body => .define name parameters body :: partsOf body
  | .inclusion template ignoreMissing scope only => [.inclusion template ignoreMissing scope only]
  | .importation template space => [.importation template space]
  | .block name => [.block name]
  | .fragment nodes => .fragment nodes :: partsOf nodes
  | .group nodes => .group nodes :: partsOf nodes
  | .host name tag arguments body => .host name tag arguments body :: partsOf body
  | .alternative condition line => [.alternative condition line]

def partsOf : List Node → List Node
  | [] => []
  | node :: rest => parts node ++ partsOf rest

def partsOfBranches : List (Expr × List Node) → List Node
  | [] => []
  | (_, body) :: rest => partsOf body ++ partsOfBranches rest

end

theorem mem_parts_self (node : Node) : node ∈ parts node := by
  cases node <;> simp [parts]

@[simp] theorem partsOf_nil : partsOf [] = [] := rfl

@[simp] theorem partsOf_cons (node : Node) (rest : List Node) :
    partsOf (node :: rest) = parts node ++ partsOf rest := rfl

@[simp] theorem partsOf_append (a b : List Node) : partsOf (a ++ b) = partsOf a ++ partsOf b := by
  induction a with
  | nil => rfl
  | cons node rest ih => simp [ih, List.append_assoc]

theorem mem_partsOf {part : Node} {nodes : List Node} :
    part ∈ partsOf nodes ↔ ∃ node ∈ nodes, part ∈ parts node := by
  induction nodes with
  | nil => simp
  | cons node rest ih => simp [ih]

end Stencil.Node
