import Stencil.Filter.Basic
import Stencil.Escape
import Stencil.Text.Case
import Stencil.Text.Markup
import Stencil.Text.Percent
import Stencil.Calendar.Format
import Stencil.Calendar.Reading
import Stencil.Pattern.Replacement

/-!
The filters that every engine has. The default zone of `date` belongs to the configuration.
-/
namespace Stencil.Filter

/-- Arrays are joined, the members of objects merged, numbers added; all else is joined as text. -/
def add : Filter := fun input arguments =>
  match input, arguments.head?.getD .null with
  | .array items, .array more => .array (items ++ more)
  | .object fields, .object more => .object (Fields.merge fields more)
  | .number a, .number b => Value.ofFloat (a.toFloat + b.toFloat)
  | input, addend => .string (input.display ++ addend.display)

def slashed (c : Char) : List Char :=
  if c = '\\' || c = '\'' || c = '"' then ['\\', c] else [c]

def addSlashes (text : List Char) : List Char := text.flatMap slashed

/-- The first argument is the format, the second the minutes behind UTC, the third the zone's name. -/
def date (minutesBehind : Int32) : Filter := fun input arguments =>
  match Calendar.Instant.ofValue? input with
  | none => emptyText
  | some instant =>
    let given := ((arguments[1]?.filter (!·.isNull)).map Value.toNumber).filter Float.isFinite
    let zone := (given.map Float.toInt32).getD minutesBehind
    .string (instant.format ((textArgument arguments 0).getD "") zone.toInt (textArgument arguments 2))

/-- The argument in place of `null`, `false` and the empty text; zero is kept. -/
def default : Filter := fun input arguments =>
  let keeps := match input with
    | .null => false
    | .bool value => value
    | .string text => !text.isEmpty
    | _ => true
  if keeps then input else arguments.head?.getD emptyText

def escape : Filter := fun input arguments =>
  let kind := ((textArgument arguments 0).bind EscapeKind.ofName?).getD .html
  mapText (Text.onChars kind.apply) input

def first : Filter := fun input _ =>
  match input with
  | .array items => items.head?.getD emptyText
  | .string text => .string (String.ofList (text.toList.take 1))
  | _ => emptyText

def last : Filter := fun input _ =>
  match input with
  | .array items => items.getLast?.getD emptyText
  | .string text => .string (String.ofList text.toList.getLast?.toList)
  | _ => emptyText

def join : Filter := fun input arguments =>
  let glue := (textArgument arguments 0).getD ""
  match input with
  | .array items => .string (String.intercalate glue (items.map Value.display))
  | .object fields => .string (String.intercalate glue (fields.map (·.2.display)))
  | .string text => .string text
  | _ => emptyText

def greatestIndent : Float := 10.0

/-- The JSON text of the value, indented if the argument asks for at least one space. -/
def jsonEncode : Filter := fun input arguments =>
  match arguments.head?.map Value.toNumber with
  | some width =>
    if width.isFinite && 1.0 ≤ width then
      .string (input.indented (min width greatestIndent).toUInt64.toNat 0)
    else .string input.json
  | none => .string input.json

def length : Filter := fun input _ =>
  match input with
  | .array items => .ofNat items.length
  | .object fields => .ofNat fields.length
  | .string text => .ofNat text.length
  | _ => emptyText

/-- The first match of a pattern replaced, or all with the flag `g`; the flag `i` ignores case. What is
no pattern replaces nothing. -/
def replace : Filter := fun input arguments =>
  let text := input.display
  match textArgument arguments 0 with
  | none => .string text
  | some pattern =>
    let replacement := (textArgument arguments 1).getD ""
    let flags := ((textArgument arguments 2).getD "").toList
    match Pattern.ofText? pattern (flags.contains 'i') with
    | none => .string text
    | some compiled =>
      .string (String.ofList
        (compiled.replace text.toList replacement.toList (flags.contains 'g')))

def reverse : Filter := fun input _ =>
  match input with
  | .array items => .array items.reverse
  | other => other

/-- The items that equal none before them. -/
def distinct (items : List Value) : List Value :=
  items.foldl (fun kept item => if kept.any (·.strictEq item) then kept else kept ++ [item]) []

def uniq : Filter := fun input _ =>
  match input with
  | .array items => .array (distinct items)
  | other => other

def onText (f : List Char → List Char) : Filter := fun input _ => mapText f input

def builtin (minutesBehind : Int32) : Filters := [
  ("add", add),
  ("addslashes", onText addSlashes),
  ("capitalize", onText Text.capitalise),
  ("date", date minutesBehind),
  ("default", default),
  ("e", escape),
  ("escape", escape),
  ("first", first),
  ("join", join),
  ("json_encode", jsonEncode),
  ("last", last),
  ("length", length),
  ("lower", onText Text.lower),
  ("raw", fun input _ => input),
  ("replace", replace),
  ("reverse", reverse),
  ("striptags", onText Text.stripTags),
  ("title", onText Text.title),
  ("uniq", uniq),
  ("upper", onText Text.upper),
  ("url_encode", onText (Text.onChars Text.Percent.encode)),
  ("url_decode", onText (Text.onChars Text.Percent.decode))]

end Stencil.Filter
