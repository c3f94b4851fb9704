import Stencil.Expr.Basic
import Stencil.Expr.Lexeme

/-!
Expressions read from lexemes. From the loosest to the tightest binding:

    or         := and (("||" | "or") and)*
    and        := not (("&&" | "and") not)*
    not        := ("!" | "not") not | comparison
    comparison := filtered (op filtered)?
    filtered   := primary ("|" name ("(" list ")")?)*
    primary    := literal | "(" or ")" | "[" list "]" | "{" pairs "}" | path ("(" list ")")?

Each rule is given the reader of the expressions inside brackets. What is inside is shorter, so the
number of lexemes bounds the depth. An unknown filter is left out.
-/
namespace Stencil

/-- Reads the front of a list of lexemes. -/
abbrev Parser := StateT (List Lexeme) (Except Complaint)

namespace Parser

def malformed {α : Type} (message : String) : Parser α := throw (.malformed message)

def peek : Parser (Option Lexeme) := do return (← get).head?

def next : Parser (Option Lexeme) := modifyGet fun lexemes => (lexemes.head?, lexemes.tail)

def isDone : Parser Bool := do return (← get).isEmpty

def remaining : Parser Nat := do return (← get).length

/-- Take the next lexeme if it passes the test. -/
def accept (test : Lexeme → Bool) : Parser Bool := modifyGet fun lexemes =>
  match lexemes with
  | lexeme :: rest => if test lexeme then (true, rest) else (false, lexemes)
  | [] => (false, [])

def acceptMark (c : Char) : Parser Bool := accept (·.isMark c)

def acceptWord (word : String) : Parser Bool := accept (·.isWord word)

def acceptEither (op : Operator) (word : String) : Parser Bool :=
  accept fun lexeme => lexeme.isOperator op || lexeme.isWord word

def expectMark (c : Char) : Parser Unit := do
  if !(← acceptMark c) then malformed s!"expected \"{String.singleton c}\""

/-- A name that can be bound. -/
def bindableName : Parser String := do
  match ← next with
  | some (.name name) =>
    checkName name
    return name
  | other => malformed s!"expected a name, found {Lexeme.shownNext other}"

/-- Nothing may be left. -/
def finish : Parser Unit := do
  match ← peek with
  | none => return ()
  | some (.mark ')') => malformed "mismatched parentheses"
  | some other => malformed s!"unexpected {other.shown}"

/-- Read a whole text. -/
def runOn {α : Type} (parser : Parser α) (text : List Char) : Except Complaint α := do
  let lexemes ← Lexeme.ofText text
  let (result, _) ← (do
    let result ← parser
    finish
    return result : Parser α).run lexemes
  return result

/-! The rules of the grammar. -/

def unclosed {α : Type} (closer : Char) : Parser α :=
  if closer = ')' then malformed "mismatched parentheses"
  else malformed s!"expected \"{String.singleton closer}\""

/-- Expressions with commas between them, and maybe one at the end, up to the closer. -/
def itemsUpTo (inner : Parser Expr) (closer : Char) : Nat → Parser (List Expr)
  | 0 => unclosed closer
  | more + 1 => do
    if ← acceptMark closer then return []
    else if ← isDone then unclosed closer
    else
      let item ← inner
      if ← acceptMark ',' then return item :: (← itemsUpTo inner closer more)
      else if ← acceptMark closer then return [item]
      else unclosed closer

def bracketed (inner : Parser Expr) (closer : Char) : Parser (List Expr) := do
  itemsUpTo inner closer ((← remaining) + 1)

/-- The key of a member: a name, a text, or a number by its text. -/
def memberKey : Parser String := do
  match ← next with
  | some (.name key) => return key
  | some (.literal key) => return key
  | some (.number value) => return value.json
  | other => malformed s!"expected an object key, found {Lexeme.shownNext other}"

def membersUpTo (inner : Parser Expr) : Nat → Parser (List (String × Expr))
  | 0 => malformed "expected \"\x7d\""
  | more + 1 => do
    if ← acceptMark '\x7d' then return []
    else
      let key ← memberKey
      expectMark ':'
      let value ← inner
      if ← acceptMark ',' then return (key, value) :: (← membersUpTo inner more)
      else
        expectMark '\x7d'
        return [(key, value)]

/-- A filter with its arguments, or nothing if there is no filter of that name. -/
def filterCall (filters : Filters) (inner : Parser Expr) : Parser (Option FilterCall) := do
  match ← next with
  | some (.name name) =>
    let arguments ← if ← acceptMark '(' then bracketed inner ')' else pure []
    return (Fields.get? filters name).map fun filter => .mk name filter arguments
  | other => malformed s!"expected a filter name, found {Lexeme.shownNext other}"

/-- A key that is given in the source is known at once. -/
def stepOf : Expr → Step
  | .literal key => .key key
  | index => .index index

/-- The rest of an access chain, or of a call. The steps come in reverse. -/
def chainFrom (inner : Parser Expr) (root : String) : Nat → List Step → Parser Expr
  | 0, steps => return .path root steps.reverse
  | more + 1, steps => do
    if ← acceptMark '.' then
      match ← next with
      | some (.name key) =>
        if isHidden key then checkName key
        chainFrom inner root more (.key (.string key) :: steps)
      | other => malformed s!"expected a property name, found {Lexeme.shownNext other}"
    else if ← acceptMark '[' then
      let index ← inner
      expectMark ']'
      chainFrom inner root more (stepOf index :: steps)
    else if ← acceptMark '(' then return .call root steps.reverse (← bracketed inner ')')
    else return .path root steps.reverse

/-- A word that is no literal begins an access chain. -/
def wordExpr (inner : Parser Expr) (word : String) : Parser Expr := do
  if word = "true" then return .literal (.bool true)
  else if word = "false" then return .literal (.bool false)
  else if word = "null" || word = "undefined" then return .literal .null
  else
    checkName word
    chainFrom inner word ((← remaining) + 1) []

def primary (inner : Parser Expr) : Parser Expr := do
  match ← next with
  | some (.number value) => return .literal value
  | some (.literal text) => return .literal (.string text)
  | some (.mark '(') =>
    let expr ← inner
    if ← acceptMark ')' then return expr else malformed "mismatched parentheses"
  | some (.mark '[') => return .array (← bracketed inner ']')
  | some (.mark '\x7b') => return .object (← membersUpTo inner ((← remaining) + 1))
  | some (.name word) => wordExpr inner word
  | some (.mark ')') => malformed "mismatched parentheses"
  | some other => malformed s!"unexpected {other.shown}"
  | none => malformed "unexpected end of expression"

def filterCalls (filters : Filters) (inner : Parser Expr) : Nat → Parser (List FilterCall)
  | 0 => return []
  | more + 1 => do
    if ← acceptMark '|' then
      let call ← filterCall filters inner
      return call.toList ++ (← filterCalls filters inner more)
    else return []

def filtered (filters : Filters) (inner : Parser Expr) : Parser Expr := do
  let base ← primary inner
  match ← filterCalls filters inner ((← remaining) + 1) with
  | [] => return base
  | calls => return .filtered base calls

def comparisonOf? : Operator → Option BinaryOp
  | .strictEq => some .strictEq
  | .strictNe => some .strictNe
  | .eq => some .eq
  | .ne => some .ne
  | .le => some .le
  | .ge => some .ge
  | .lt => some .lt
  | .gt => some .gt
  | .and => none
  | .or => none
  | .not => none

/-- The comparison that the lexemes begin with, and what follows it. -/
def comparisonAtFront? : List Lexeme → Option (BinaryOp × List Lexeme)
  | .operator op :: rest => (comparisonOf? op).map (·, rest)
  | .name first :: rest =>
    if first = "in" then some (.member, rest)
    else if first = "not" && rest.head?.any (·.isWord "in") then some (.notMember, rest.tail)
    else none
  | _ => none

def comparison (filters : Filters) (inner : Parser Expr) : Parser Expr := do
  let left ← filtered filters inner
  match comparisonAtFront? (← get) with
  | some (op, rest) =>
    set rest
    return .binary op left (← filtered filters inner)
  | none => return left

def negation (filters : Filters) (inner : Parser Expr) : Nat → Parser Expr
  | 0 => comparison filters inner
  | more + 1 => do
    if ← acceptEither .not "not" then return .not (← negation filters inner more)
    else comparison filters inner

/-- Operands with one operator between them, grouped from the left. -/
def operandsFrom (op : BinaryOp) (accepted : Parser Bool) (operand : Parser Expr) :
    Nat → Expr → Parser Expr
  | 0, left => return left
  | more + 1, left => do
    if ← accepted then operandsFrom op accepted operand more (.binary op left (← operand))
    else return left

def conjunction (filters : Filters) (inner : Parser Expr) : Parser Expr := do
  let operand := do negation filters inner (← remaining)
  let left ← operand
  operandsFrom .and (acceptEither .and "and") operand (← remaining) left

def disjunction (filters : Filters) (inner : Parser Expr) : Parser Expr := do
  let left ← conjunction filters inner
  operandsFrom .or (acceptEither .or "or") (conjunction filters inner) (← remaining) left

/-- An expression whose brackets nest at most so deep. -/
def upToDepth (filters : Filters) : Nat → Parser Expr
  | 0 => malformed "unexpected end of expression"
  | depth + 1 => disjunction filters (upToDepth filters depth)

def expression (filters : Filters) : Parser Expr := do upToDepth filters ((← remaining) + 1)

/-- Expressions with commas between them up to the end. -/
def expressionsUpTo (filters : Filters) : Nat → Parser (List Expr)
  | 0 => return []
  | more + 1 => do
    if ← isDone then return []
    else
      let item ← expression filters
      if ← acceptMark ',' then return item :: (← expressionsUpTo filters more) else return [item]

def expressions (filters : Filters) : Parser (List Expr) := do
  expressionsUpTo filters ((← remaining) + 1)

/-- A filter with its arguments. -/
def filterName (filters : Filters) : Parser (Option FilterCall) := do
  filterCall filters (upToDepth filters ((← remaining) + 1))

end Parser

namespace Expr

def ofText (filters : Filters) (text : List Char) : Except Complaint Expr :=
  (Parser.expression filters).runOn text

def listOfText (filters : Filters) (text : List Char) : Except Complaint (List Expr) :=
  (Parser.expressions filters).runOn text

end Expr

end Stencil
