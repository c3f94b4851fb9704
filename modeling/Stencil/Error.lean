/-!
What can be wrong with a template. A complaint about a tag is made where the tag is read, which knows
nothing of lines; the line is added once, where the tag's place in the source is known.
-/
namespace Stencil

/-- What is wrong with a tag. -/
inductive Complaint where
  | unclosedDelimiter (opening : String)
  | unknownTag (name : String)
  | mismatchedEnd (expected : String) (opened : Nat) (found : String)
  | unexpectedEnd (found : String)
  | unclosedTag (name : String)
  | unclosedRaw
  | unclosedArgument (text : String)
  | misplaced (name : String)
  | invalidBlockName (name : String)
  | invalidVariable (name reason : String)
  | invalidArguments (tag message : String)
  | malformed (message : String)
  | circularExtends (name : String)
  | extendsNotFirst
  | illegalBlockNesting (name parent : String)
deriving DecidableEq, Repr

/-- The message of a complaint about the tag on a line. -/
def Complaint.message (line : Nat) : Complaint → String
  | unclosedDelimiter opening => s!"Unclosed \"{opening}\" on line {line}"
  | unknownTag name => s!"Unexpected logic tag \"{name}\" on line {line}"
  | mismatchedEnd expected opened found =>
      s!"Expected end of tag \"{expected}\" on line {opened}, but found \"{found}\" on line {line}"
  | unexpectedEnd found => s!"Unexpected end of tag \"{found}\" on line {line}"
  | unclosedTag name => s!"Missing end tag for \"{name}\" opened on line {line}"
  | unclosedRaw => s!"Missing end tag for \"raw\" opened on line {line}"
  | unclosedArgument text => s!"Unclosed argument \"{text}\" on line {line}"
  | misplaced name => s!"Tag \"{name}\" on line {line} must be used inside \"if\" or \"for\""
  | invalidBlockName name => s!"Invalid block name \"{name}\" on line {line}"
  | invalidVariable name reason => s!"Invalid variable name \"{name}\" on line {line}: {reason}"
  | invalidArguments tag message => s!"Invalid arguments for tag \"{tag}\" on line {line}: {message}"
  | malformed message => s!"Malformed syntax at line {line}: {message}"
  | circularExtends name => s!"Circular extends of template \"{name}\" on line {line}"
  | extendsNotFirst => s!"Extends tag must be the first tag in the template, found on line {line}"
  | illegalBlockNesting name parent =>
      s!"Block \"{name}\" on line {line} cannot be nested inside \"{parent}\""

inductive TemplateError where
  /-- A complaint about the tag that starts on the line. -/
  | located (line : Nat) (complaint : Complaint)
  | load (name message : String)
  | render (message : String)
  | engineGone (label : String)
deriving DecidableEq, Repr

namespace TemplateError

def message : TemplateError → String
  | located line complaint => complaint.message line
  | load name message => s!"Unable to load template \"{name}\": {message}"
  | render message => message
  | engineGone label => s!"Template \"{label}\" outlived its engine"

end TemplateError

/-- The result of reading a tag, with its line added to a complaint. -/
def located {α : Type} (line : Nat) : Except Complaint α → Except TemplateError α
  | .ok result => .ok result
  | .error complaint => .error (.located line complaint)

end Stencil
