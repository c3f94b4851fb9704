import Stencil.Escape
import Stencil.Tag

/-!
The token tree of a template: texts, output tags, and logic tags that own what stands between them and
their end tags.
-/
namespace Stencil

/-- A filter of an output tag with the text of its arguments. -/
structure FilterText where
  name : String
  arguments : Option String
deriving DecidableEq, Repr

structure OutputTag where
  expr : String
  filters : List FilterText
  /-- The escaping that is applied behind the filters. -/
  escape : Option EscapeKind
  line : Nat
deriving DecidableEq, Repr

/-- Which blanks next to a tag are removed. -/
structure Strip where
  /-- Those before the tag. -/
  before : Bool := false
  /-- Those behind the tag, or behind its end tag. -/
  after : Bool := false
  /-- Those at the start of the body. -/
  start : Bool := false
  /-- Those at the end of the body. -/
  finish : Bool := false
deriving DecidableEq, Repr

structure LogicTag where
  name : String
  kind : Tag
  /-- The text behind the name. -/
  arguments : String
  words : List String
  line : Nat
  /-- The names of the tags around this one, outermost first. -/
  parents : List String
  strip : Strip
deriving DecidableEq, Repr

inductive Token where
  | literal (text : String)
  | output (tag : OutputTag)
  | logic (tag : LogicTag) (children : List Token)

instance : Inhabited Token := ⟨.literal ""⟩

namespace Token

def isKind (kind : Tag) : Token → Bool
  | logic tag _ => tag.kind = kind
  | _ => false

/-- Whether the tag removes the blanks before it. -/
def stripsBefore : Token → Bool
  | logic tag _ => tag.strip.before
  | _ => false

/-- Whether the tag removes the blanks behind it. -/
def stripsAfter : Token → Bool
  | logic tag _ => tag.strip.after
  | _ => false

end Token

/-- The name that a block tag gives. -/
def LogicTag.blockName (tag : LogicTag) : String := String.join tag.words

end Stencil
