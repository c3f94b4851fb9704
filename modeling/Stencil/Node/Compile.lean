import Stencil.Node.Arguments

/-!
Tokens compiled to nodes. Blanks next to a tag with a hyphen are removed from the texts beside it; a text
that becomes empty leaves no node.
-/
namespace Stencil

/-- What names stand for while a template is compiled, and what a parent tag stands for. -/
structure Scope where
  filters : Filters
  tags : Tags
  parent : Option (List Node)

namespace Scope

def expr (scope : Scope) (line : Nat) (text : String) : Except TemplateError Expr :=
  located line (Expr.ofText scope.filters text.toList)

/-- The filters that are known, with their arguments. -/
def filterCalls (scope : Scope) (line : Nat) :
    List FilterText → Except TemplateError (List FilterCall)
  | [] => .ok []
  | text :: rest => do
    match Fields.get? scope.filters text.name with
    | none => filterCalls scope line rest
    | some filter =>
      let arguments ← match text.arguments with
        | some arguments => located line (Expr.listOfText scope.filters arguments.toList)
        | none => pure []
      return .mk text.name filter arguments :: (← filterCalls scope line rest)

def exprs (scope : Scope) (line : Nat) : List String → Except TemplateError (List Expr)
  | [] => .ok []
  | word :: rest => do return (← scope.expr line word) :: (← exprs scope line rest)

def output (scope : Scope) (tag : OutputTag) : Except TemplateError Node := do
  let expr ← scope.expr tag.line tag.expr
  return .output expr (← scope.filterCalls tag.line tag.filters) tag.escape

end Scope

/-- Nodes that follow an alternative, with its condition and its line. -/
structure Branch where
  condition : Option Expr
  line : Nat
  body : List Node

/-- The nodes before the first alternative, and the branches. -/
def splitBranches : List Node → List Node × List Branch
  | [] => ([], [])
  | .alternative condition line :: rest =>
    let (body, branches) := splitBranches rest
    ([], ⟨condition, line, body⟩ :: branches)
  | node :: rest =>
    let (body, branches) := splitBranches rest
    (node :: body, branches)

/-- The branches of a choice behind the first one; the last may have no condition. -/
def choiceBranches : List Branch → Except TemplateError (List (Expr × List Node) × List Node)
  | [] => .ok ([], [])
  | ⟨some condition, _, body⟩ :: rest => do
    let (branches, otherwise) ← choiceBranches rest
    return ((condition, body) :: branches, otherwise)
  | [⟨none, _, body⟩] => .ok ([], body)
  | ⟨none, _, _⟩ :: next :: _ =>
    .error (.located next.line (.malformed "\"else\" after the final \"else\" branch"))

/-- The body of a loop without items: at most one branch, with no condition. -/
def emptyBranch : List Branch → Except TemplateError (List Node)
  | [] => .ok []
  | ⟨some _, line, _⟩ :: _ => .error (loopFault line)
  | [⟨none, _, body⟩] => .ok body
  | _ :: next :: _ => .error (loopFault next.line)
where
  loopFault (line : Nat) : TemplateError :=
    .located line (.malformed "\"for\" takes a single plain \"else\"")

def stripText (start finish : Bool) (text : String) : String :=
  let chars := text.toList
  let chars := if start then Text.trimStart chars else chars
  String.ofList (if finish then Text.trimEnd chars else chars)

/-- Whether the blanks at the end of a text are removed, given what follows it in a body. -/
def stripsEnd (finish : Bool) : List Token → Bool
  | [] => finish
  | next :: _ => next.stripsBefore

mutual

/-- The nodes of a token, given whether the blanks at its two ends are removed if it is a text. -/
def compileToken (scope : Scope) (start finish : Bool) : Token → Except TemplateError (List Node)
  | .literal text =>
    let text := stripText start finish text
    .ok (if text.isEmpty then [] else [.text text])
  | .output tag => do return [← scope.output tag]
  | .logic tag children => do
    match tag.kind with
    | .loop =>
      let loop ← Arguments.read tag (Arguments.loop scope.filters tag)
      let (body, branches) := splitBranches
        (← compileTokens scope tag.strip.start tag.strip.finish children)
      return [.loop loop.key loop.item loop.source body (← emptyBranch branches)]
    | .condition =>
      if tag.arguments.isEmpty then
        throw (.located tag.line (.invalidArguments tag.name "missing condition"))
      let condition ← scope.expr tag.line tag.arguments
      let (body, branches) := splitBranches
        (← compileTokens scope tag.strip.start tag.strip.finish children)
      let (branches, otherwise) ← choiceBranches branches
      return [.choice ((condition, body) :: branches) otherwise]
    | .alternative =>
      let condition ← Arguments.read tag (Arguments.alternative scope.filters tag)
      return [.alternative condition tag.line]
    | .assignment =>
      let (name, value) ← Arguments.read tag (Arguments.assignment scope.filters tag)
      return [.assign name value]
    | .filter =>
      let call ← Arguments.read tag (Arguments.filter scope.filters tag)
      return [.filter call (← compileTokens scope tag.strip.start tag.strip.finish children)]
    | .definition =>
      let (name, parameters) ← Arguments.read tag (Arguments.definition tag)
      return [.define name parameters
        (← compileTokens scope tag.strip.start tag.strip.finish children)]
    | .inclusion =>
      let inclusion ← Arguments.read tag (Arguments.inclusion scope.filters tag)
      return [.inclusion inclusion.template inclusion.ignoreMissing inclusion.scope inclusion.only]
    | .importation =>
      let (template, space) ← Arguments.read tag (Arguments.importation scope.filters tag)
      return [.importation template space]
    | .block => return [.block tag.blockName]
    | .extends => return []
    | .parent => return (scope.parent.map Node.fragment).toList
    | .raw => return [.group (← compileTokens scope tag.strip.start tag.strip.finish children)]
    | .autoescape =>
      return [.group (← compileTokens scope tag.strip.start tag.strip.finish children)]
    | .host name =>
      match scope.tags.hostTag? name with
      | none => throw (.located tag.line (.unknownTag name))
      | some host =>
        let arguments ← scope.exprs tag.line tag.words
        let body ← if host.ends then compileTokens scope tag.strip.start tag.strip.finish children
          else pure []
        return [.host name host arguments body]

/-- The nodes of the tokens of a body, given whether the blanks at its two ends are removed. -/
def compileTokens (scope : Scope) (start finish : Bool) :
    List Token → Except TemplateError (List Node)
  | [] => .ok []
  | token :: rest => do
    let nodes ← compileToken scope start (stripsEnd finish rest) token
    return nodes ++ (← compileTokens scope token.stripsAfter finish rest)

end

end Stencil
