import Stencil.Render.Template

/-!
Rendering of nodes. A loop gives its variables back as they were, however it ends. What is included or
imported runs in a context of its own.
-/
namespace Stencil.Render

open RenderM

/-- The items of an array with their indices, or the members of an object with their names. -/
def entries : Value → List (Value × Value)
  | .array items => items.zipIdx.map fun (item, index) => (.ofNat index, item)
  | .object fields => fields.map fun (name, item) => (.string name, item)
  | _ => []

def loopVariable : String := "loop"

/-- What a body can know about its turn. -/
def loopRecord (index length : Nat) (key : Value) : Value :=
  .object [
    ("index", .ofNat (index + 1)),
    ("index0", .ofNat index),
    ("revindex", .ofNat (length - index)),
    ("revindex0", .ofNat (length - index - 1)),
    ("first", .bool (index == 0)),
    ("last", .bool (index + 1 == length)),
    ("key", key),
    ("length", .ofNat length)]

/-- The variables of one turn. -/
def bindTurn (keyName : Option String) (itemName : String) (index length : Nat) (key item : Value)
    (context : Context) : Context :=
  let context := match keyName with
    | some name => context.put name key
    | none => context
  (context.put itemName item).put loopVariable (loopRecord index length key)

/-- The body for each entry in turn, the first of which has the index. -/
def turns (keyName : Option String) (itemName : String) (length : Nat) (body : RenderM String) :
    Nat → List (Value × Value) → RenderM String
  | _, [] => return ""
  | index, (key, item) :: rest => do
    changeContext (bindTurn keyName itemName index length key item)
    let text ← body
    return text ++ (← turns keyName itemName length body (index + 1) rest)

/-- The variables of a loop as they were before it. -/
def restoreLoop (keyName : Option String) (itemName : String) (before after : Context) : Context :=
  let context := after.restore itemName (before.get? itemName)
  let context := match keyName with
    | some name => context.restore name (before.get? name)
    | none => context
  context.restore loopVariable (before.get? loopVariable)

def loop (keyName : Option String) (itemName : String) (source : Context → EvalM Value)
    (body empty : RenderM String) : RenderM String := do
  match entries (← evaluate source) with
  | [] => empty
  | all =>
    let before ← context
    thenChange (turns keyName itemName all.length body 0 all)
      (restoreLoop keyName itemName before)

/-- A template that is rendered already leaves a message in its place. -/
def circular (frame : Frame) (message : String) : EvalM String :=
  if frame.env.settings.debug then LoadM.fail (.render message) else return message

/-- The output of the template called `name` in a context of its own. -/
def included (jump : Jump) (frame : Frame) (name : String) (scope : Context) : EvalM String := do
  let template := (← frame.env.load name frame.origin).template
  match template.circularMessage? frame.ancestors with
  | some message => circular frame message
  | none =>
    let (text, _) ← inside scope (template.execute jump frame.env frame.ancestors)
    return text

/-- The context that an included template starts with. -/
def inclusionScope (jump : Jump) (frame : Frame) (scope : Option Expr) (only : Bool)
    (context : Context) : EvalM Context := do
  let start := if only then Context.empty else context
  match scope with
  | none => return start
  | some e =>
    match ← Eval.expr jump frame context e with
    | .object bindings => return start.extend bindings
    | _ => return start

def inclusion (jump : Jump) (frame : Frame) (template : Expr) (ignoreMissing : Bool)
    (scope : Option Expr) (only : Bool) : RenderM String := do
  let name := (← evaluate fun context => Eval.expr jump frame context template).display
  let scope ← evaluate (inclusionScope jump frame scope only)
  let rendered := evaluate fun _ => included jump frame name scope
  if ignoreMissing then rendered.orElse fun _ => return "" else rendered

/-- The callables that a template leaves in an empty context, or a message. -/
def imported (jump : Jump) (frame : Frame) (name : String) :
    EvalM (String × Fields Callable) := do
  let template := (← frame.env.load name frame.origin).template
  match template.circularMessage? frame.ancestors with
  | some message => return (← circular frame message, [])
  | none =>
    let (_, scope) ← inside .empty (template.execute jump frame.env frame.ancestors)
    return ("", scope.callables)

def importation (jump : Jump) (frame : Frame) (template : Expr) (space : String) :
    RenderM String := do
  let name := (← evaluate fun context => Eval.expr jump frame context template).display
  let (text, callables) ← evaluate fun _ => imported jump frame name
  changeContext (·.defineAll space callables)
  return text

def output (jump : Jump) (frame : Frame) (expr : Expr) (filters : List FilterCall)
    (escape : Option EscapeKind) : RenderM String := do
  let called ← evaluate fun context => Eval.output jump frame context expr
  let value ← evaluate fun context => Eval.through jump frame context filters called.value
  match escape with
  | some kind =>
    return if called.isMarkup && filters.isEmpty then value.display else kind.apply value.display
  | none => return value.display

def filter (jump : Jump) (frame : Frame) (call : Option FilterCall) (body : RenderM String) :
    RenderM String := do
  let text ← body
  match call with
  | none => return text
  | some call =>
    let value ← evaluate fun context => Eval.through jump frame context [call] (.string text)
    return value.display

def host (jump : Jump) (frame : Frame) (name : String) (tag : HostTag) (arguments : List Expr)
    (body : RenderM String) : RenderM String := do
  let arguments ← evaluate fun context => Eval.exprs jump frame context arguments
  let body ← if tag.ends then some <$> body else pure none
  let context ← context
  let call : TagCall := {
    arguments, body, bindings := context.bindings
    callables := Fields.names context.callables
    extensions := frame.env.settings.extensions }
  match tag.render call with
  | .ok text => return text
  | .error message => fail (.render s!"tag \"{name}\" failed: {message}")

mutual

def node (jump : Jump) (frame : Frame) : Node → RenderM String
  | .text text => return text
  | .output expr filters escape => output jump frame expr filters escape
  | .choice branches otherwise => choice jump frame branches (nodes jump frame otherwise)
  | .loop key item source body empty =>
    loop key item (fun context => Eval.expr jump frame context source)
      (nodes jump frame body) (nodes jump frame empty)
  | .assign name value => do
    let value ← evaluate fun context => Eval.expr jump frame context value
    changeContext (·.put name value)
    return ""
  | .filter call body => filter jump frame call (nodes jump frame body)
  | .define name parameters body => do
    changeContext (·.define name (.macroBody name parameters body))
    return ""
  | .inclusion template ignoreMissing scope only =>
    inclusion jump frame template ignoreMissing scope only
  | .importation template space => importation jump frame template space
  | .block name =>
    match Fields.get? frame.blocks name with
    | some body => jump frame body
    | none => return ""
  | .fragment body => nodes jump frame body
  | .group body => nodes jump frame body
  | .host name tag arguments body => host jump frame name tag arguments (nodes jump frame body)
  | .alternative _ _ => return ""

def nodes (jump : Jump) (frame : Frame) : List Node → RenderM String
  | [] => return ""
  | first :: rest => do
    let text ← node jump frame first
    return text ++ (← nodes jump frame rest)

/-- The body of the first branch whose condition holds. -/
def choice (jump : Jump) (frame : Frame) :
    List (Expr × List Node) → RenderM String → RenderM String
  | [], otherwise => otherwise
  | (condition, body) :: rest, otherwise => do
    let value ← evaluate fun context => Eval.expr jump frame context condition
    if value.isTruthy then nodes jump frame body else choice jump frame rest otherwise

end

/-- A renderer that follows at most so many names into each other. -/
def upToDepth : Nat → Jump
  | 0 => fun _ _ => throw .tooDeep
  | depth + 1 => fun frame => nodes (upToDepth depth) frame

end Stencil.Render
