import Stencil.Value.Basic
import Stencil.Decimal.Reading
import Stencil.Calendar.Day

/-!
Strings, numbers, dates and keys of TOML, read from the front of a text. A reader that fails does so for
the document as a whole, except where another form is tried next.
-/
namespace Stencil.Toml

abbrev Reader := StateT (List Char) Option

namespace Reader

def next : Reader Char := fun text =>
  match text with
  | c :: rest => some (c, rest)
  | [] => none

def peek : Reader (Option Char) := fun text => some (text.head?, text)

def accept (token : List Char) : Reader Bool := fun text =>
  if token.isPrefixOf text then some (true, text.drop token.length) else some (false, text)

def expect (c : Char) : Reader Unit := do
  if !(← accept [c]) then failure

def takeWhile (test : Char → Bool) : Reader (List Char) := fun text =>
  some (text.takeWhile test, text.dropWhile test)

/-- The reader's result, or nothing and the text as it was. -/
def attempt {α : Type} (reader : Reader α) : Reader (Option α) := fun text =>
  match reader text with
  | some (result, rest) => some (some result, rest)
  | none => some (none, text)

def blanks : Reader Unit := do
  let _ ← takeWhile fun c => c == ' ' || c == '\t'

/-- The end of a line, with or without a carriage return. -/
def newline : Reader Bool := do
  if ← accept ['\n'] then return true
  else accept ['\r', '\n']

end Reader

open Reader

def isAllowed (c : Char) : Bool := c == '\t' || (0x20 ≤ c.toNat && c.toNat != 0x7F)

def hexDigitsOf (width : Nat) : Reader Char := do
  let text ← get
  let digits := text.take width
  if digits.length < width then failure
  set (text.drop width)
  let n := digits.foldl (fun acc c => acc.bind fun n =>
    if c.isDigit then some (16 * n + (c.toNat - 48))
    else if 'a' ≤ c && c ≤ 'f' then some (16 * n + (c.toNat - 87))
    else if 'A' ≤ c && c ≤ 'F' then some (16 * n + (c.toNat - 55))
    else none) (some 0)
  match n with
  | some n => if n.isValidChar then return Char.ofNat n else failure
  | none => failure

/-- The character of an escape, after its backslash. -/
def escapeChar : Reader Char := do
  match ← next with
  | 'b' => return '\x08'
  | 't' => return '\t'
  | 'n' => return '\n'
  | 'f' => return '\x0c'
  | 'r' => return '\r'
  | '"' => return '"'
  | '\\' => return '\\'
  | 'u' => hexDigitsOf 4
  | 'U' => hexDigitsOf 8
  | _ => failure

/-- The rest of a string on one line, up to its quote. The number bounds its length. -/
def basicRest : Nat → Reader (List Char)
  | 0 => failure
  | more + 1 => do
    let c ← next
    if c = '"' then return []
    else if c = '\\' then
      let c ← escapeChar
      return c :: (← basicRest more)
    else if isAllowed c then return c :: (← basicRest more)
    else failure

def literalRest : Reader (List Char) := do
  let body ← takeWhile (· != '\'')
  expect '\''
  if body.all isAllowed then return body else failure

/-- The rest of a string of several lines, up to three quotes; up to two more belong to the string. -/
def linesRest (quote : Char) : Nat → Reader (List Char)
  | 0 => failure
  | more + 1 => do
    if ← accept [quote, quote, quote, quote, quote] then return [quote, quote]
    else if ← accept [quote, quote, quote, quote] then return [quote]
    else if ← accept [quote, quote, quote] then return []
    else if ← newline then return '\n' :: (← linesRest quote more)
    else
      let c ← next
      if c = '\\' && quote = '"' then
        let folded ← attempt do
          blanks
          if !(← newline) then failure
        match folded with
        | some _ =>
          skipLines more
          linesRest quote more
        | none =>
          let c ← escapeChar
          return c :: (← linesRest quote more)
      else if isAllowed c then return c :: (← linesRest quote more)
      else failure
where
  skipLines : Nat → Reader Unit
    | 0 => return ()
    | more + 1 => do
      blanks
      if ← newline then skipLines more

/-- A string, or nothing if no quote comes next. -/
def string? : Reader (Option String) := do
  let length := (← get).length
  if ← accept ['"', '"', '"'] then
    let _ ← newline
    return some (String.ofList (← linesRest '"' (length + 1)))
  else if ← accept ['\'', '\'', '\''] then
    let _ ← newline
    return some (String.ofList (← linesRest '\'' (length + 1)))
  else if ← accept ['"'] then return some (String.ofList (← basicRest (length + 1)))
  else if ← accept ['\''] then return some (String.ofList (← literalRest))
  else return none

def isBareKey (c : Char) : Bool := c.isAlphanum || c == '_' || c == '-'

/-- One part of a key: bare, or a string on one line. -/
def keyPart : Reader String := do
  let length := (← get).length
  if ← accept ['"'] then return String.ofList (← basicRest (length + 1))
  else if ← accept ['\''] then return String.ofList (← literalRest)
  else
    let bare ← takeWhile isBareKey
    if bare.isEmpty then failure
    return String.ofList bare

/-- A key of several parts with points between them: the parts before the last one, and the last. -/
def dottedKey : Nat → Reader (List String × String)
  | 0 => failure
  | more + 1 => do
    blanks
    let part ← keyPart
    blanks
    if ← accept ['.'] then
      let (path, key) ← dottedKey more
      return (part :: path, key)
    else return ([], part)

/-- Digits in groups with single low lines between them; the low lines are dropped. -/
def digitGroups (isDigit : Char → Bool) : Bool → List Char → Option (List Char × List Char)
  | afterDigit, c :: rest =>
      if isDigit c then (digitGroups isDigit true rest).map fun (digits, tail) => (c :: digits, tail)
      else if c = '_' then
        if afterDigit && rest.head?.any isDigit then digitGroups isDigit false rest else none
      else some ([], c :: rest)
  | _, [] => some ([], [])

def groups (isDigit : Char → Bool) : Reader (List Char) := fun text =>
  match digitGroups isDigit false text with
  | some (digits, rest) => if digits.isEmpty then none else some (digits, rest)
  | none => none

/-- The whole part of a number: a zero alone, or digits that begin with another one. -/
def wholeDigits : Reader (List Char) := do
  if (← peek) == some '0' then
    let _ ← next
    return ['0']
  else groups Char.isDigit

/-- A number in base sixteen, eight or two, after its mark. -/
def basedInteger (base : Nat) (isDigit : Char → Bool) : Reader Value := do
  let digits ← groups isDigit
  let n := digits.foldl (fun acc c =>
    base * acc + if c.isDigit then c.toNat - 48 else c.toLower.toNat - 87) 0
  if n < 0x8000000000000000 then return .ofNat n else failure

def isHexDigit (c : Char) : Bool := c.isDigit || ('a' ≤ c && c ≤ 'f') || ('A' ≤ c && c ≤ 'F')

def signed (negative : Bool) (n : Nat) : Int := if negative then -n else n

def exponentPart : Reader Int := do
  let _ ← next
  let minus ← accept ['-']
  if !minus then
    let _ ← accept ['+']
  return signed minus (Decimal.natOfDigits (← groups Char.isDigit))

def isExponentMark (c : Option Char) : Bool := c == some 'e' || c == some 'E'

def infinity : Float := 1.0 / 0.0

/-- A decimal number. One too large to be a double is refused unless it is negative. -/
def decimalNumber (negative : Bool) : Reader Value := do
  let whole ← wholeDigits
  let hasPoint ← accept ['.']
  let fraction ← if hasPoint then groups Char.isDigit else pure []
  let hasExponent := isExponentMark (← peek)
  let exponent ← if hasExponent then exponentPart else pure 0
  if hasPoint || hasExponent then
    let value := Decimal.applySign negative
      (Decimal.nearest (Decimal.natOfDigits (whole ++ fraction)) (exponent - fraction.length))
    if value == infinity then failure
    return .number (.real value)
  else
    let n := signed negative (Decimal.natOfDigits whole)
    if -0x8000000000000000 ≤ n && n < 0x8000000000000000 then return .ofInt n else failure

def number : Reader Value := do
  if ← accept ['0', 'x'] then basedInteger 16 isHexDigit
  else if ← accept ['0', 'o'] then basedInteger 8 fun c => '0' ≤ c && c ≤ '7'
  else if ← accept ['0', 'b'] then basedInteger 2 fun c => c == '0' || c == '1'
  else
    let negative ← accept ['-']
    if !negative then
      let _ ← accept ['+']
    if ← accept ['i', 'n', 'f'] then return .number (.real (Decimal.applySign negative infinity))
    else if ← accept ['n', 'a', 'n'] then return .number (.real (0.0 / 0.0))
    else decimalNumber negative

def fixedDigits (width : Nat) : Reader (List Char) := fun text =>
  let digits := text.take width
  if digits.length == width && digits.all Char.isDigit then some (digits, text.drop width) else none

def dateText : Reader (List Char) := do
  let year ← fixedDigits 4
  expect '-'
  let month ← fixedDigits 2
  expect '-'
  let day ← fixedDigits 2
  let date : Calendar.Date :=
    ⟨Decimal.natOfDigits year, Decimal.natOfDigits month, Decimal.natOfDigits day⟩
  if !date.isValid then failure
  return year ++ '-' :: month ++ '-' :: day

/-- The digits of a fraction of a second: at most nine, and no zeros at the end. -/
def fractionText : Reader (List Char) := do
  if ← accept ['.'] then
    let digits ← takeWhile Char.isDigit
    if digits.isEmpty then failure
    match (digits.take 9).reverse.dropWhile (· == '0') with
    | [] => return []
    | kept => return '.' :: kept.reverse
  else return []

def timeText : Reader (List Char) := do
  let hour ← fixedDigits 2
  expect ':'
  let minute ← fixedDigits 2
  expect ':'
  let second ← fixedDigits 2
  let fraction ← fractionText
  if 23 < Decimal.natOfDigits hour || 59 < Decimal.natOfDigits minute
      || 60 < Decimal.natOfDigits second then failure
  return hour ++ ':' :: minute ++ ':' :: second ++ fraction

/-- The offset of a time; one of zero is written with a plus sign. -/
def offsetText : Reader (List Char) := do
  if (← accept ['Z']) || (← accept ['z']) then return ['Z']
  else
    let minus ← accept ['-']
    if !minus && !(← accept ['+']) then return []
    let hour ← fixedDigits 2
    expect ':'
    let minute ← fixedDigits 2
    if 23 < Decimal.natOfDigits hour || 59 < Decimal.natOfDigits minute then failure
    let isZero := (hour ++ minute).all (· == '0')
    return (if minus && !isZero then '-' else '+') :: hour ++ ':' :: minute

/-- A time behind a date, if one follows. -/
def timeAfterDate : Reader (List Char) := do
  if !((← accept ['T']) || (← accept ['t']) || (← accept [' '])) then failure
  let time ← timeText
  let offset ← offsetText
  return 'T' :: time ++ offset

def moment : Reader (List Char) := do
  match ← attempt dateText with
  | some date => return date ++ ((← attempt timeAfterDate).getD [])
  | none => timeText

/-- The name under which a date or time stands as the only member of an object. -/
def momentMember : String := "$__toml_private_datetime"

def momentValue : Reader Value := do
  return .object [(momentMember, .string (String.ofList (← moment)))]

/-- A date, a time or a number. -/
def momentOrNumber : Reader Value := do
  match ← attempt momentValue with
  | some value => return value
  | none => number

def word (text : String) (value : Value) : Reader Value := do
  if ← accept text.toList then return value else failure

end Stencil.Toml
