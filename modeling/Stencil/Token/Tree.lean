import Stencil.Source.Literal
import Stencil.Source.Scanner
import Stencil.Source.Words
import Stencil.Token.Basic

/-!
The token tree built from segments. The tags that are open are kept on a stack, each with what stands
before it; an end tag closes the innermost one, which must bear its name. Autoescape tags keep a stack of
their own, of what to return to.
-/
namespace Stencil

/-- A tag that awaits its end tag, and the tokens before it in reverse. -/
structure OpenTag where
  tag : LogicTag
  before : List Token

/-- A tree under construction: the open tags, innermost first, the tokens at the current place in
reverse, the escaping there, and those to return to where autoescape tags end. -/
structure TokenTree where
  opened : List OpenTag
  current : List Token
  escape : Option EscapeKind
  saved : List (Option EscapeKind)

namespace TokenTree

def start (escape : Option EscapeKind) : TokenTree := ⟨[], [], escape, []⟩

def add (tree : TokenTree) (token : Token) : TokenTree :=
  { tree with current := token :: tree.current }

/-- The names of the open tags, outermost first. -/
def parents (tree : TokenTree) : List String := (tree.opened.map (·.tag.name)).reverse

def malformed {α : Type} (message : String) : Except Complaint α := .error (.malformed message)

def filterTexts (content : List Char) : List (List Char) → Except Complaint (List FilterText)
  | [] => .ok []
  | part :: rest => do
    let call := Source.CallText.ofText part
    if call.name.isEmpty then malformed s!"empty filter in \"{String.ofList content}\""
    return ⟨String.ofList call.name, call.arguments.map String.ofList⟩
      :: (← filterTexts content rest)

/-- An output tag. A safe filter takes the place of the escaping. -/
def outputTag (escape : Option EscapeKind) (content : List Char) (line : Nat) :
    Except Complaint OutputTag := do
  let content := Text.trim content
  if content.isEmpty then malformed "empty variable tag"
  let _ ← Source.words content
  match Source.pipeParts content with
  | [] => malformed "empty variable tag"
  | first :: parts =>
    let expr := Text.trim first
    if expr.isEmpty then
      malformed s!"missing expression before filter in \"{String.ofList content}\""
    let filters ← filterTexts content parts
    let escape := if filters.any (Filter.isSafe ·.name) then none else escape
    return ⟨String.ofList expr, filters, escape, line⟩

def isBlockName (name : String) : Bool :=
  match name.toList with
  | c :: rest => c.isAlpha && rest.all fun c => c.isAlphanum || c == '_'
  | [] => false

/-- Blocks stand at the top level or in other blocks, and have one name each. -/
def checkBlock (tree : TokenTree) (name : String) (words : List String) : Except Complaint Unit :=
  match tree.opened.reverse.find? (·.tag.kind != .block) with
  | some parent => .error (.illegalBlockNesting (words.head?.getD "") parent.tag.name)
  | none =>
    match words with
    | [word] => if isBlockName word then .ok () else .error (.invalidBlockName word)
    | _ => .error (.invalidArguments name "expected exactly one block name")

/-- Whether the innermost open tag has branches. -/
def takesAlternative (tree : TokenTree) : Bool :=
  match tree.opened with
  | block :: _ => block.tag.kind = .condition || block.tag.kind = .loop
  | [] => false

/-- Whether a tag may stand at the current place. -/
def checkPlace (tree : TokenTree) (name : String) (kind : Tag) (words : List String) :
    Except Complaint Unit :=
  match kind with
  | .alternative => if tree.takesAlternative then .ok () else .error (.misplaced name)
  | .block => checkBlock tree name words
  | .extends => if tree.opened.isEmpty then .ok () else .error .extendsNotFirst
  | _ => .ok ()

/-- The escaping that the argument of an autoescape tag asks for. -/
def escapeOf (words : List String) : Except Complaint (Option EscapeKind) :=
  let invalid := .error (.invalidArguments "autoescape" "expected true, false, \"html\" or \"js\"")
  match words with
  | [word] =>
    if word = "true" then .ok (some .html)
    else if word = "false" then .ok none
    else match (Source.unquote? word.toList).bind (EscapeKind.ofName? <| String.ofList ·) with
    | some kind => .ok (some kind)
    | none => invalid
  | _ => invalid

/-- What is saved inside a tag of this kind: an autoescape tag puts the escaping around it on top. -/
def save (kind : Tag) (escape : Option EscapeKind) (saved : List (Option EscapeKind)) :
    List (Option EscapeKind) :=
  if kind = .autoescape then escape :: saved else saved

/-- The escaping behind a tag of this kind, and what is saved there: the end of an autoescape tag returns
to the last saved escaping, if there is one. -/
def restore (kind : Tag) (escape : Option EscapeKind) (saved : List (Option EscapeKind)) :
    Option EscapeKind × List (Option EscapeKind) :=
  if kind = .autoescape then (saved.head?.getD escape, saved.tail) else (escape, saved)

/-- Close the innermost open tag. -/
def close (tree : TokenTree) (text : Source.TagText) (found closed : String) :
    Except Complaint TokenTree :=
  match tree.opened with
  | [] => .error (.unexpectedEnd found)
  | block :: opened =>
    if block.tag.name ≠ closed then .error (.mismatchedEnd block.tag.name block.tag.line found)
    else
      let strip := { block.tag.strip with finish := text.stripBefore, after := text.stripAfter }
      let token := .logic { block.tag with strip } tree.current.reverse
      let outside := restore block.tag.kind tree.escape tree.saved
      .ok ⟨opened, token :: block.before, outside.1, outside.2⟩

/-- Put a tag at the current place; if it has a body, its tokens follow. -/
def begin (tree : TokenTree) (tag : LogicTag) (entry : TagEntry) : Except Complaint TokenTree :=
  if !entry.ends then .ok (tree.add (.logic tag []))
  else do
    let strip := { tag.strip with start := tag.strip.after, after := false }
    let escape ← if entry.tag = .autoescape then escapeOf tag.words else pure tree.escape
    return ⟨⟨{ tag with strip }, tree.current⟩ :: tree.opened, [], escape,
      save entry.tag tree.escape tree.saved⟩

/-- The name of the tag that an end tag of this name closes. -/
def closedName? (name : String) : Option String :=
  match name.toList with
  | 'e' :: 'n' :: 'd' :: rest => some (String.ofList rest)
  | _ => none

/-- A tag that is no raw tag. A name in the table is never read as an end tag. -/
def addLogic (tags : Tags) (tree : TokenTree) (content : List Char) (line : Nat) :
    Except Complaint TokenTree :=
  let text := Source.TagText.ofContent content
  let name := String.ofList text.name
  if text.name.isEmpty then malformed "empty logic tag"
  else match tags.get? name, closedName? name with
  | none, some closed => tree.close text name closed
  | none, none => .error (.unknownTag name)
  | some entry, _ => do
    let words := (← Source.words text.arguments).map String.ofList
    tree.checkPlace name entry.tag words
    let tag : LogicTag := {
      name, kind := entry.tag, arguments := String.ofList text.arguments, words, line
      parents := tree.parents
      strip := { before := text.stripBefore, after := text.stripAfter } }
    tree.begin tag entry

/-- A raw tag, whose body is a text. -/
def rawToken (tree : TokenTree) (content : List Char) (line : Nat) (body closer : List Char) :
    Token :=
  let opening := Source.TagText.ofContent content
  let closing := Source.TagText.ofContent closer
  .logic {
      name := "raw", kind := .raw, arguments := "", words := [], line
      parents := tree.parents
      strip := {
        before := opening.stripBefore, start := opening.stripAfter
        finish := closing.stripBefore, after := closing.stripAfter } }
    [.literal (String.ofList body)]

def addSegment (tags : Tags) (tree : TokenTree) : Source.Segment → Except Complaint TokenTree
  | .text text _ => .ok (tree.add (.literal (String.ofList text)))
  | .output content line => do
    let tag ← outputTag tree.escape content line
    return tree.add (.output tag)
  | .logic content line => tree.addLogic tags content line
  | .raw content line body closer => .ok (tree.add (tree.rawToken content line body closer))

def addSegments (tags : Tags) : TokenTree → List Source.Segment → Except TemplateError TokenTree
  | tree, [] => .ok tree
  | tree, segment :: rest => do
    let tree ← located segment.line (tree.addSegment tags segment)
    addSegments tags tree rest

/-- The tokens, if no tag is left open. -/
def finish (tree : TokenTree) : Except TemplateError (List Token) :=
  match tree.opened with
  | [] => .ok tree.current.reverse
  | block :: _ => .error (.located block.tag.line (.unclosedTag block.tag.name))

end TokenTree

/-- The token tree of a source, with the escaping that holds outside all autoescape tags. -/
def Token.ofSource (tags : Tags) (escape : Option EscapeKind) (source : String) :
    Except TemplateError (List Token) := do
  let segments := Source.segments source
  let tree ← TokenTree.addSegments tags (.start escape) segments.segments
  match segments.fault with
  | some (line, complaint) => .error (.located line complaint)
  | none => tree.finish

end Stencil
