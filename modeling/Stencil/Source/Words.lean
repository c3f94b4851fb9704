import Stencil.Error
import Stencil.Source.Nesting
import Stencil.Text.Blank

/-!
The text of a tag cut into words at its blanks, or into the parts of a filter chain at its pipes. Quoted
texts and bracketed groups are never cut; two pipes in a row are an operator and no cut.
-/
namespace Stencil.Source

inductive WordFault where
  | stray (closer : Char)
  | unclosed (word : List Char)
deriving DecidableEq, Repr

/-- The word so far, given in reverse, if it is not empty. -/
def endWord (word : List Char) (rest : List (List Char)) : List (List Char) :=
  if word.isEmpty then rest else word.reverse :: rest

/-- The words of a text, of which one has begun; it is given in reverse. -/
def wordsFrom : Nesting → List Char → List Char → Except WordFault (List (List Char))
  | nesting, word, [] =>
    if word.isEmpty || nesting.isTop then .ok (endWord word [])
    else .error (.unclosed word.reverse)
  | nesting, word, c :: rest =>
    match nesting.step c with
    | (_, .stray) => .error (.stray c)
    | (next, .inside) => wordsFrom next (c :: word) rest
    | (next, .top) =>
      if Text.isBlank c then (wordsFrom next [] rest).map (endWord word)
      else wordsFrom next (c :: word) rest

def words (text : List Char) : Except Complaint (List (List Char)) :=
  match wordsFrom .start [] text with
  | .ok words => .ok words
  | .error (.stray closer) =>
      .error (.malformed s!"unexpected \"{closer}\" in \"{String.ofList (Text.trim text)}\"")
  | .error (.unclosed word) => .error (.unclosedArgument (String.ofList (Text.trimEnd word)))

/-- Whether the character is a pipe at the top level. -/
def isPipe (nesting : Nesting) (c : Char) : Bool := c = '|' && (nesting.step c).2 = .top

/-- The parts between single pipes at the top level; the first has begun and is given in reverse. -/
def pipePartsFrom : Nesting → List Char → List Char → List (List Char)
  | _, part, [] => [part.reverse]
  | nesting, part, [c] =>
    if isPipe nesting c then [part.reverse, []] else [(c :: part).reverse]
  | nesting, part, c :: d :: rest =>
    let next := (nesting.step c).1
    if isPipe nesting c then
      if d = '|' then pipePartsFrom next (d :: c :: part) rest
      else part.reverse :: pipePartsFrom next [] (d :: rest)
    else pipePartsFrom next (c :: part) (d :: rest)

def pipeParts (text : List Char) : List (List Char) := pipePartsFrom .start [] text

/-- A name, with the text between the brackets behind it if there are any. -/
structure CallText where
  name : List Char
  arguments : Option (List Char)
deriving DecidableEq, Repr

def CallText.ofText (text : List Char) : CallText :=
  let text := Text.trim text
  if text.contains '(' && text.getLast? = some ')' then
    ⟨Text.trim (text.takeWhile (· != '(')), some (text.dropWhile (· != '(')).tail.dropLast⟩
  else ⟨text, none⟩

end Stencil.Source
