import Stencil.Host

/-!
The logic tags: the built-in ones and those of the host, which take precedence by name.
-/
namespace Stencil

inductive Tag where
  | loop
  | condition
  | alternative
  | assignment
  | filter
  | definition
  | inclusion
  | importation
  | block
  | extends
  | parent
  | raw
  | autoescape
  | host (name : String)
deriving DecidableEq, Repr

/-- What a name stands for, and whether the tag has a body and an end tag. -/
structure TagEntry where
  tag : Tag
  ends : Bool
deriving DecidableEq, Repr

structure Tags where
  entries : Fields TagEntry
  host : Fields HostTag

namespace Tags

def builtin : Fields TagEntry := [
  ("for", ⟨.loop, true⟩),
  ("if", ⟨.condition, true⟩),
  ("else", ⟨.alternative, false⟩),
  ("elseif", ⟨.alternative, false⟩),
  ("elif", ⟨.alternative, false⟩),
  ("set", ⟨.assignment, false⟩),
  ("filter", ⟨.filter, true⟩),
  ("macro", ⟨.definition, true⟩),
  ("include", ⟨.inclusion, false⟩),
  ("import", ⟨.importation, false⟩),
  ("block", ⟨.block, true⟩),
  ("extends", ⟨.extends, false⟩),
  ("parent", ⟨.parent, false⟩),
  ("raw", ⟨.raw, true⟩),
  ("autoescape", ⟨.autoescape, true⟩)]

/-- The built-in tags with those of the host in their places. -/
def ofHost (host : Fields HostTag) : Tags :=
  { entries := Fields.merge builtin (host.map fun (name, tag) => (name, ⟨.host name, tag.ends⟩))
    host }

def get? (tags : Tags) (name : String) : Option TagEntry := Fields.get? tags.entries name

def hostTag? (tags : Tags) (name : String) : Option HostTag := Fields.get? tags.host name

end Tags

end Stencil
