import Stencil.Filter.Basic

/-!
Expressions: literals, access chains, calls, arrays, objects, filter chains and the logical operators.
A filter is found when the expression is read, and kept in it.
-/
namespace Stencil

inductive BinaryOp where
  | eq
  | ne
  | strictEq
  | strictNe
  | lt
  | gt
  | le
  | ge
  | and
  | or
  | member
  | notMember
deriving DecidableEq, Repr

mutual

inductive Expr where
  | literal (value : Value)
  | path (root : String) (steps : List Step)
  | call (root : String) (steps : List Step) (arguments : List Expr)
  | array (items : List Expr)
  | object (members : List (String × Expr))
  | filtered (base : Expr) (filters : List FilterCall)
  | not (operand : Expr)
  | binary (op : BinaryOp) (left right : Expr)

/-- A step of an access chain: a key known from the source, or one that is computed. -/
inductive Step where
  | key (key : Value)
  | index (index : Expr)

inductive FilterCall where
  | mk (name : String) (filter : Filter) (arguments : List Expr)

end

instance : Inhabited Expr := ⟨.literal .null⟩

/-- The name under which a function at the end of the chain is known: its parts with low lines between
them. A chain with other keys than names has none. -/
def callableName? (root : String) : List Step → Option String
  | [] => some root
  | .key (.string name) :: rest => callableName? (root ++ "_" ++ name) rest
  | _ :: _ => none

end Stencil
