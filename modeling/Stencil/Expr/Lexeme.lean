import Stencil.Expr.Identifier
import Stencil.Source.Literal
import Stencil.Text.Quoted
import Stencil.Value.Coercion

/-!
The lexemes of an expression: names, numbers, quoted texts, operators and marks. Digits behind a point
are a name, so that `items.0` is an access and no fraction; a hyphen only belongs to a number.
-/
namespace Stencil

inductive Operator where
  | strictEq
  | strictNe
  | eq
  | ne
  | le
  | ge
  | and
  | or
  | lt
  | gt
  | not
deriving DecidableEq, Repr

namespace Operator

/-- The operators, longer ones first, so that none is read as the start of another. -/
def all : List Operator := [strictEq, strictNe, eq, ne, le, ge, and, or, lt, gt, not]

def spelling : Operator → List Char
  | strictEq => ['=', '=', '=']
  | strictNe => ['!', '=', '=']
  | eq => ['=', '=']
  | ne => ['!', '=']
  | le => ['<', '=']
  | ge => ['>', '=']
  | and => ['&', '&']
  | or => ['|', '|']
  | lt => ['<']
  | gt => ['>']
  | not => ['!']

/-- The operator that a text begins with. -/
def atFront? (text : List Char) : Option Operator := all.find? (·.spelling.isPrefixOf text)

theorem spelling_ne_nil (op : Operator) : op.spelling ≠ [] := by cases op <;> simp [spelling]

end Operator

inductive Lexeme where
  | name (text : String)
  | number (value : Value)
  | literal (text : String)
  | operator (op : Operator)
  | mark (c : Char)

namespace Lexeme

/-- How a number shows in a message. -/
def shownNumber : Value → String
  | .null => "Null"
  | value => s!"Number({value.json})"

/-- How a lexeme shows in a message. -/
def shown : Lexeme → String
  | name text => s!"Ident({Text.Quoted.quoted text})"
  | number value => s!"Number({shownNumber value})"
  | literal text => s!"Str({Text.Quoted.quoted text})"
  | operator op => s!"Op({Text.Quoted.quoted (String.ofList op.spelling)})"
  | mark c => "Punct('" ++ String.singleton c ++ "')"

/-- How the next lexeme shows in a message, if there is one. -/
def shownNext : Option Lexeme → String
  | some lexeme => s!"Some({lexeme.shown})"
  | none => "None"

def isMark (c : Char) : Lexeme → Bool
  | mark d => d == c
  | _ => false

def isWord (word : String) : Lexeme → Bool
  | name text => text == word
  | _ => false

def isOperator (op : Operator) : Lexeme → Bool
  | operator other => other == op
  | _ => false

/-- The characters that are lexemes by themselves. -/
def marks : List Char := ['(', ')', '[', ']', '\x7b', '\x7d', ',', ':', '.', '|', '=']

/-- The text up to the closing quote, and what follows that. -/
def quotedRun (quote : Char) : List Char → Option (List Char × List Char)
  | [] => none
  | ['\\'] => none
  | '\\' :: c :: rest =>
    (quotedRun quote rest).map fun (body, after) => ('\\' :: c :: body, after)
  | c :: rest =>
    if c = quote then some ([], rest)
    else (quotedRun quote rest).map fun (body, after) => (c :: body, after)

/-- The characters of a number at the front of the text: a sign, digits, and digits behind a point. -/
def numberLength (text : List Char) : Nat :=
  let sign := if text.head? = some '-' then 1 else 0
  let whole := ((text.drop sign).takeWhile Char.isDigit).length
  match text.drop (sign + whole) with
  | '.' :: rest =>
    let fraction := (rest.takeWhile Char.isDigit).length
    if fraction = 0 then sign + whole else sign + whole + 1 + fraction
  | _ => sign + whole

/-- A number without a point that fits a word is an integer; all others are read as doubles. -/
def numberValue (text : List Char) : Value :=
  let (negative, digits) := Decimal.splitSign text
  let magnitude := Decimal.natOfDigits digits
  let n : Int := if negative then -magnitude else magnitude
  if text.contains '.' || n < -0x8000000000000000 || 0x8000000000000000 ≤ n then
    match Decimal.floatOf? text with
    | some value => Value.ofFloat value
    | none => .null
  else .ofInt n

/-- One lexeme, or a blank, at the front of the text, and how long it is. -/
inductive Scanned where
  | blank
  | lexeme (lexeme : Lexeme) (length : Nat)
  | unclosed
  | unexpected

/-- What the text begins with. -/
def scan (afterPoint : Bool) (c : Char) (rest : List Char) : Scanned :=
  if Text.isSpace c then .blank
  else if Source.isQuote c then
    match quotedRun c rest with
    | some (body, _) => .lexeme (literal (String.ofList (Source.unescape body))) (body.length + 2)
    | none => .unclosed
  else if c.isDigit && afterPoint then
    let digits := (c :: rest).takeWhile Char.isDigit
    .lexeme (name (String.ofList digits)) digits.length
  else if c.isDigit || (c = '-' && rest.head?.any Char.isDigit) then
    let length := numberLength (c :: rest)
    .lexeme (number (numberValue ((c :: rest).take length))) length
  else if isNameStart c then
    let word := (c :: rest).takeWhile isNamePart
    .lexeme (name (String.ofList word)) word.length
  else match Operator.atFront? (c :: rest) with
  | some op => .lexeme (operator op) op.spelling.length
  | none => if marks.contains c then .lexeme (mark c) 1 else .unexpected

inductive Fault where
  | unclosed (rest : List Char)
  | unexpected (c : Char)

/-- The lexemes of a text, behind a point or not. A lexeme has at least one character. -/
def listFrom (afterPoint : Bool) : List Char → Except Fault (List Lexeme)
  | [] => .ok []
  | c :: rest =>
    match scan afterPoint c rest with
    | .blank => listFrom afterPoint rest
    | .lexeme lexeme length =>
      (listFrom (lexeme.isMark '.') (rest.drop (length - 1))).map (lexeme :: ·)
    | .unclosed => .error (.unclosed (c :: rest))
    | .unexpected => .error (.unexpected c)
termination_by text => text.length
decreasing_by
  · simp
  · simp only [List.length_drop, List.length_cons]
    omega

def ofText (source : List Char) : Except Complaint (List Lexeme) :=
  match listFrom false source with
  | .ok lexemes => .ok lexemes
  | .error (.unclosed rest) => .error (.unclosedArgument (String.ofList rest))
  | .error (.unexpected c) =>
      .error (.malformed
        s!"unexpected character \"{String.singleton c}\" in \"{String.ofList (Text.trim source)}\"")

end Lexeme

end Stencil
