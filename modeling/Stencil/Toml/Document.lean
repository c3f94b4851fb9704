import Stencil.Toml.Scalar
import Stencil.Toml.Table

/-!
Documents: lines with a member or a header each. Arrays may go over several lines, inline tables may
not. Values nest to a fixed depth.
-/
namespace Stencil.Toml

open Reader

/-- A comment, if one comes next; it holds no control characters. -/
def comment : Reader Unit := do
  if ← accept ['#'] then
    let body ← takeWhile fun c => c != '\n' && c != '\r'
    if !body.all isAllowed then failure

/-- The end of a line behind a member or a header. -/
def lineEnd : Reader Unit := do
  blanks
  comment
  if (← peek).isSome then
    if !(← newline) then failure

/-- Blanks, comments and ends of lines inside an array. -/
def arraySpace : Nat → Reader Unit
  | 0 => failure
  | more + 1 => do
    blanks
    comment
    if ← newline then arraySpace more

/-- How deep values may nest, and how many parts a key may have. -/
def greatestDepth : Nat := 79

/-- The items of an array, up to its closing bracket. -/
def arrayRest (value : Reader Value) : Nat → Reader (List Value)
  | 0 => failure
  | more + 1 => do
    arraySpace (more + 1)
    if ← accept [']'] then return []
    else
      let item ← value
      arraySpace (more + 1)
      if ← accept [','] then return item :: (← arrayRest value more)
      else
        expect ']'
        return [item]

/-- The members of an inline table, up to its closing brace. -/
def inlineRest (value : Reader Value) : Nat → Members → Reader Members
  | 0, _ => failure
  | more + 1, members => do
    let (path, key) ← dottedKey greatestDepth
    expect '='
    blanks
    let item ← value
    blanks
    match addMember path key (.value item) members with
    | none => failure
    | some members =>
      if ← accept [','] then inlineRest value more members
      else
        expect '\x7d'
        return members

/-- A value, given the reader of the values inside it. -/
def valueWith (inner : Option (Reader Value)) : Reader Value := do
  let length := (← get).length
  match ← string? with
  | some text => return .string text
  | none =>
    match ← peek, inner with
    | some '[', some inner =>
      let _ ← next
      return .array (← arrayRest inner (length + 1))
    | some '\x7b', some inner =>
      let _ ← next
      blanks
      if ← accept ['\x7d'] then return .object []
      else return .object (membersToValue (← inlineRest inner (length + 1) []))
    | some '[', none => failure
    | some '\x7b', none => failure
    | some 't', _ => word "true" (.bool true)
    | some 'f', _ => word "false" (.bool false)
    | some 'i', _ => word "inf" (.number (.real infinity))
    | some 'n', _ => word "nan" (.number (.real (0.0 / 0.0)))
    | _, _ => momentOrNumber

/-- A value; the number says how deep it may nest. -/
def value : Nat → Reader Value
  | 0 => valueWith none
  | depth + 1 => valueWith (some (value depth))

def member (draft : Draft) : Reader Draft := do
  let (path, key) ← dottedKey greatestDepth
  expect '='
  blanks
  let item ← value greatestDepth
  lineEnd
  match draft.addMember path key (.value item) with
  | some draft => return draft
  | none => failure

def header (draft : Draft) : Reader Draft := do
  let isElement ← accept ['[', '[']
  if !isElement then expect '['
  let (path, key) ← dottedKey greatestDepth
  expect ']'
  if isElement then expect ']'
  lineEnd
  match if isElement then draft.openElement path key else draft.openTable path key with
  | some draft => return draft
  | none => failure

/-- The lines of the document up to its end. -/
def lines : Nat → Draft → Reader Draft
  | 0, _ => failure
  | more + 1, draft => do
    blanks
    match ← peek with
    | none => return draft
    | some '#' =>
      lineEnd
      lines more draft
    | some '[' => lines more (← header draft)
    | some '\n' =>
      let _ ← next
      lines more draft
    | some '\r' =>
      if ← newline then lines more draft else failure
    | some _ => lines more (← member draft)

/-- The object that the document describes, or nothing if it is malformed. -/
def parse (text : String) : Option Value := do
  let chars := match text.toList with
    | '\ufeff' :: rest => rest
    | chars => chars
  let (draft, _) ← lines (chars.length + 1) ⟨[], none⟩ chars
  let members ← draft.close
  return .object (membersToValue members)

end Stencil.Toml
