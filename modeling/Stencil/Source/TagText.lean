import Stencil.Text.Blank

/-!
The inside of a logic tag: hyphens at its two ends, a name, and the text of the arguments. A hyphen asks
for the blanks next to the tag to be removed.
-/
namespace Stencil.Source

structure TagText where
  stripBefore : Bool
  stripAfter : Bool
  name : List Char
  arguments : List Char

/-- The text behind a hyphen at its start, if there is one. -/
def dropHyphen : List Char → Bool × List Char
  | '-' :: rest => (true, rest)
  | text => (false, text)

def dropLastHyphen (text : List Char) : Bool × List Char :=
  if text.getLast? = some '-' then (true, text.dropLast) else (false, text)

def TagText.ofContent (content : List Char) : TagText :=
  let (stripBefore, text) := dropHyphen (Text.trim content)
  let (stripAfter, text) := dropLastHyphen text
  let text := Text.trim text
  { stripBefore, stripAfter
    name := text.takeWhile (!Text.isBlank ·)
    arguments := Text.trim (text.dropWhile (!Text.isBlank ·)) }

/-- The tag whose body is taken as it stands. -/
def TagText.opensRaw (tag : TagText) : Bool := tag.name = ['r', 'a', 'w']

def TagText.closesRaw (tag : TagText) : Bool :=
  tag.name = ['e', 'n', 'd', 'r', 'a', 'w'] && tag.arguments.isEmpty

end Stencil.Source
