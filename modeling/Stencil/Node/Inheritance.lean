import Stencil.Node.Compile
import Stencil.Source.Literal

/-!
Layouts. A template that extends a layout keeps its blocks, which take the place of the layout's blocks
of the same names, and its top-level assignments, which run before the layout's nodes. Inside a block a
parent tag stands for the block of that name that the template inherits.
-/
namespace Stencil

/-- What an extends tag names: a layout known from the source, or an expression. -/
inductive Layout where
  | named (name : String)
  | computed (name : Expr)

namespace Token

def isBlankText : Token → Bool
  | .literal text => Text.isBlankText text.toList
  | _ => false

/-- The first extends tag among the tokens. -/
def firstExtends? : List Token → Option LogicTag
  | [] => none
  | .logic tag _ :: rest => if tag.kind = .extends then some tag else firstExtends? rest
  | _ :: rest => firstExtends? rest

/-- The extends tag that the tokens begin with, and the tokens behind the first one. -/
def leadingExtends? : List Token → Option LogicTag × List Token
  | .logic tag _ :: rest => (if tag.kind = .extends then some tag else none, rest)
  | _ :: rest => (none, rest)
  | [] => (none, [])

def layoutOf (scope : Scope) (tag : LogicTag) : Except TemplateError Layout :=
  match tag.words with
  | [word] =>
    match Source.unquote? word.toList with
    | some name => .ok (.named (String.ofList name))
    | none => (scope.expr tag.line word).map .computed
  | _ =>
    .error (.located tag.line (.invalidArguments tag.name "expected exactly one template name"))

/-- The layout of a template and the line of the tag that names it. Only blank texts may come before
that tag. -/
def layout? (scope : Scope) (tokens : List Token) :
    Except TemplateError (Option (Layout × Nat)) :=
  let (first, rest) := leadingExtends? (tokens.filter (!·.isBlankText))
  match firstExtends? rest with
  | some misplaced => .error (.located misplaced.line .extendsNotFirst)
  | none =>
    match first with
    | none => .ok none
    | some tag => (layoutOf scope tag).map fun layout => some (layout, tag.line)

mutual

/-- The name of a block and those of the blocks inside it. -/
def blockNames : Token → List String
  | .logic tag children =>
    if tag.kind = .block then tag.blockName :: blockNamesOf children else []
  | _ => []

/-- The names of the blocks at any depth, in the order of the source. -/
def blockNamesOf : List Token → List String
  | [] => []
  | token :: rest => blockNames token ++ blockNamesOf rest

end

/-- The top-level assignments. -/
def assignments (tokens : List Token) : List Token := tokens.filter (·.isKind .assignment)

end Token

mutual

/-- The blocks with a block and those inside it. -/
def compileBlock (scope : Scope) (inherited : Blocks) :
    Token → Blocks → Except TemplateError Blocks
  | .logic tag children, blocks =>
    if tag.kind = .block then do
      let name := tag.blockName
      let body ← compileTokens { scope with parent := Fields.get? inherited name }
        tag.strip.start tag.strip.finish children
      compileBlocks scope inherited children (Fields.put blocks name body)
    else .ok blocks
  | _, blocks => .ok blocks

/-- The blocks with those that the tokens declare at any depth; the last one of a name counts. -/
def compileBlocks (scope : Scope) (inherited : Blocks) :
    List Token → Blocks → Except TemplateError Blocks
  | [], blocks => .ok blocks
  | token :: rest, blocks => do
    compileBlocks scope inherited rest (← compileBlock scope inherited token blocks)

end

namespace Program

/-- A template without a layout. -/
def ofTokens (scope : Scope) (tokens : List Token) : Except TemplateError Program := do
  let nodes ← compileTokens scope false false tokens
  return ⟨nodes, ← compileBlocks scope [] tokens []⟩

/-- A template over its layout. -/
def extend (scope : Scope) (tokens : List Token) (layout : Program) :
    Except TemplateError Program := do
  let blocks ← compileBlocks scope layout.blocks tokens layout.blocks
  let nodes ← compileTokens scope false false (Token.assignments tokens)
  return ⟨nodes ++ [.fragment layout.nodes], blocks⟩

/-- Compile all that a template would bring to a layout, for the errors alone. -/
def check (scope : Scope) (tokens : List Token) : Except TemplateError Unit := do
  let _ ← compileBlocks scope [] tokens []
  let _ ← compileTokens scope false false (Token.assignments tokens)

end Program

end Stencil
