import Stencil.Render.Basic
import Stencil.Value.Access

/-!
Evaluation of expressions. Undefined chains are `null`; the globals are searched before the context, and
never both for one chain. A callable of the context hides a function of the host.
-/
namespace Stencil.Eval

open LoadM

/-- How many calls of macros may be going on in one template. -/
def macroLimit : Nat := 100

def renderFault {α : Type} (message : String) : EvalM α := fail (.render message)

/-- The value at the end of a chain: in the globals, or else in the context. -/
def find (globals : Fields Value) (context : Context) (root : String) (keys : List Value) : Value :=
  let from? (fields : Fields Value) := (Fields.get? fields root).bind (·.walk keys)
  ((from? globals).or (from? context.bindings)).getD .null

def native (name : String) (function : NativeFunction) (arguments : List Value) : EvalM Value :=
  match function arguments with
  | .ok value => return value
  | .error message => renderFault s!"function \"{name}\" failed: {message}"

/-- Parameters without an argument are `null`. -/
def bind (context : Context) : List String → List Value → Context
  | [], _ => context
  | name :: names, values => bind (context.put name (values.head?.getD .null)) names values.tail

/-- The output of a macro, which sees a copy of the context with its parameters. -/
def callMacro (jump : Jump) (frame : Frame) (context : Context) (name : String)
    (parameters : List String) (body : List Node) (arguments : List Value) : EvalM String := do
  if macroLimit ≤ frame.macroDepth then
    renderFault s!"macro \"{name}\" exceeded the maximum call depth of {macroLimit}"
  let scope := bind context parameters arguments
  let (text, _) ← RenderM.inside scope
    (jump { frame with macroDepth := frame.macroDepth + 1 } body)
  return text

/-- A value, and whether it is the output of a macro. -/
structure Called where
  value : Value
  isMarkup : Bool

/-- Call what the name stands for, if anything; else the chain is looked up. -/
def call (jump : Jump) (frame : Frame) (context : Context) (name? : Option String)
    (lookup : EvalM Value) (arguments : EvalM (List Value)) : EvalM Called := do
  match name? with
  | none => return ⟨← lookup, false⟩
  | some name =>
    match Fields.get? context.callables name with
    | some (.macroBody macroName parameters body) =>
      let text ← callMacro jump frame context macroName parameters body (← arguments)
      return ⟨.string text, true⟩
    | some (.native function) => return ⟨← native name function (← arguments), false⟩
    | none =>
      match Fields.get? frame.env.settings.functions name with
      | some function => return ⟨← native name function (← arguments), false⟩
      | none => return ⟨← lookup, false⟩

/-- The operators that need both values. -/
def comparison (op : BinaryOp) (left right : Value) : Bool :=
  match op with
  | .eq => left.looseEq right
  | .ne => !left.looseEq right
  | .strictEq => left.strictEq right
  | .strictNe => !left.strictEq right
  | .lt => left.compare right == some .lt
  | .gt => left.compare right == some .gt
  | .le => left.compare right == some .lt || left.compare right == some .eq
  | .ge => left.compare right == some .gt || left.compare right == some .eq
  | .member => right.contains left
  | .notMember => !right.contains left
  | .and => left.isTruthy && right.isTruthy
  | .or => left.isTruthy || right.isTruthy

/-- Of the two operands of a logical operator the one that decides is the value. -/
def binary (op : BinaryOp) (left right : EvalM Value) : EvalM Value := do
  let value ← left
  match op with
  | .and => if value.isTruthy then right else return value
  | .or => if value.isTruthy then return value else right
  | op => return .bool (comparison op value (← right))

mutual

def expr (jump : Jump) (frame : Frame) (context : Context) : Expr → EvalM Value
  | .literal value => return value
  | .path root steps => do
    return find frame.env.settings.globals context root (← keys jump frame context steps)
  | .call root steps arguments => do
    let lookup := do
      return find frame.env.settings.globals context root (← keys jump frame context steps)
    let called ← call jump frame context (callableName? root steps) lookup
      (exprs jump frame context arguments)
    return called.value
  | .array items => do return .array (← exprs jump frame context items)
  | .object fields => do return .object (Fields.ofEntries (← members jump frame context fields))
  | .filtered base filters => do
    through jump frame context filters (← expr jump frame context base)
  | .not operand => do return .bool (!(← expr jump frame context operand).isTruthy)
  | .binary op left right =>
    binary op (expr jump frame context left) (expr jump frame context right)

def exprs (jump : Jump) (frame : Frame) (context : Context) : List Expr → EvalM (List Value)
  | [] => return []
  | e :: rest => do return (← expr jump frame context e) :: (← exprs jump frame context rest)

def members (jump : Jump) (frame : Frame) (context : Context) :
    List (String × Expr) → EvalM (List (String × Value))
  | [] => return []
  | (name, e) :: rest => do
    let value ← expr jump frame context e
    return (name, value) :: (← members jump frame context rest)

/-- The keys of an access chain. -/
def keys (jump : Jump) (frame : Frame) (context : Context) : List Step → EvalM (List Value)
  | [] => return []
  | .key key :: rest => do return key :: (← keys jump frame context rest)
  | .index e :: rest => do
    return (← expr jump frame context e) :: (← keys jump frame context rest)

/-- The value through the filters. -/
def through (jump : Jump) (frame : Frame) (context : Context) :
    List FilterCall → Value → EvalM Value
  | [], value => return value
  | .mk _ filter arguments :: rest, value => do
    let arguments ← exprs jump frame context arguments
    through jump frame context rest (filter value arguments)

end

/-- The value of what an output tag prints, and whether it is the output of a macro. -/
def output (jump : Jump) (frame : Frame) (context : Context) : Expr → EvalM Called
  | .call root steps arguments =>
    let lookup := do
      return find frame.env.settings.globals context root (← keys jump frame context steps)
    call jump frame context (callableName? root steps) lookup (exprs jump frame context arguments)
  | e => do return ⟨← expr jump frame context e, false⟩

end Stencil.Eval
