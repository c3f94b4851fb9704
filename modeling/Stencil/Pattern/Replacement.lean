import Stencil.Pattern.Search

/-!
Replacements. A dollar sign with a name or a number, bare or in braces, stands for what a group matched,
and for nothing if there is no such group; two dollar signs stand for one.
-/
namespace Stencil.Pattern

/-- What the slots of a group span. -/
def groupText (text : List Char) (slots : Slots) (index : Nat) : List Char :=
  match slots.getD (2 * index) none, slots.getD (2 * index + 1) none with
  | some first, some last => (text.drop first).take (last - first)
  | _, _ => []

/-- A reference is a number if it reads as one of 64 bits, and a name otherwise. -/
def referredIndex? (names : Fields Nat) (reference : List Char) : Option Nat :=
  let digits := match reference with
    | '+' :: rest => rest
    | reference => reference
  let number := Decimal.natOfDigits digits
  if digits.isEmpty || !digits.all Char.isDigit || 0x10000000000000000 ≤ number then
    Fields.get? names (String.ofList reference)
  else some number

def isReferenceChar (c : Char) : Bool := c.isAlphanum || c == '_'

/-- The reference behind a dollar sign and what follows it. -/
def reference? : List Char → Option (List Char × List Char)
  | '\x7b' :: rest =>
      match rest.dropWhile (· != '\x7d') with
      | _ :: after => some (rest.takeWhile (· != '\x7d'), after)
      | [] => none
  | rest =>
      let name := rest.takeWhile isReferenceChar
      if name.isEmpty then none else some (name, rest.dropWhile isReferenceChar)

/-- The replacement with its references resolved. The number bounds the length of what is left. -/
def expand (names : Fields Nat) (groupOf : Nat → List Char) : Nat → List Char → List Char
  | 0, _ => []
  | _ + 1, [] => []
  | more + 1, '$' :: '$' :: rest => '$' :: expand names groupOf more rest
  | more + 1, '$' :: rest =>
      match reference? rest with
      | some (reference, after) =>
          ((referredIndex? names reference).map groupOf).getD [] ++ expand names groupOf more after
      | none => '$' :: expand names groupOf more rest
  | more + 1, c :: rest => c :: expand names groupOf more rest

/-- The text with the matches replaced, which are given in order and do not overlap. -/
def splice (text : List Char) (replace : Slots → List Char) : Nat → List Slots → List Char
  | position, [] => text.drop position
  | position, slots :: rest =>
      let (first, last) := Subject.span slots
      (text.drop position).take (first - position) ++ replace slots ++ splice text replace last rest

/-- Replace all matches, or the first one. -/
def Compiled.replace (compiled : Compiled) (text replacement : List Char) (all : Bool) : List Char :=
  let found := (compiled.subject text).allMatches
  let groupOf (slots : Slots) := groupText text slots
  let fill (slots : Slots) := expand compiled.names (groupOf slots) (replacement.length + 1) replacement
  splice text fill 0 (if all then found else found.take 1)

end Stencil.Pattern
