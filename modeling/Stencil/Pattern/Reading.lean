import Stencil.Pattern.Weight
import Stencil.Fields
import Stencil.Decimal.Reading

/-!
Patterns read from their text. Flags in force change as they are met and are put back at the end of the
group that changed them; with the verbose flag blanks and comments between the parts do not count. A text
that is no pattern is refused as a whole.
-/
namespace Stencil.Pattern

structure Flags where
  ignoreCase : Bool := false
  multiLine : Bool := false
  dotAll : Bool := false
  swapGreed : Bool := false
  carriage : Bool := false
  verbose : Bool := false
  unicode : Bool := true

namespace Reading

structure Cursor where
  rest : List Char
  flags : Flags
  groups : Nat
  names : Fields Nat

abbrev Reader := StateT Cursor Option

def failure {α : Type} : Reader α := fun _ => none

def peek : Reader (Option Char) := fun cursor => some (cursor.rest.head?, cursor)

def peekSecond : Reader (Option Char) := fun cursor => some (cursor.rest.tail.head?, cursor)

def advance (count : Nat) : Reader Unit := fun cursor =>
  some ((), { cursor with rest := cursor.rest.drop count })

def flags : Reader Flags := fun cursor => some (cursor.flags, cursor)

def setFlags (flags : Flags) : Reader Unit := fun cursor => some ((), { cursor with flags })

def next : Reader Char := fun cursor =>
  match cursor.rest with
  | c :: rest => some (c, { cursor with rest })
  | [] => none

/-- Take the text if it comes next. -/
def accept (text : List Char) : Reader Bool := fun cursor =>
  if text.isPrefixOf cursor.rest then
    some (true, { cursor with rest := cursor.rest.drop text.length })
  else some (false, cursor)

def expect (c : Char) : Reader Unit := do
  if !(← accept [c]) then failure

/-- The text without leading blanks and without comments, which go up to the end of their line. -/
def skipVerbose (comment : Bool) : List Char → List Char
  | [] => []
  | c :: rest =>
      if comment then skipVerbose (c != '\n') rest
      else if Text.isBlank c then skipVerbose false rest
      else if c = '#' then skipVerbose true rest
      else c :: rest

def skipSpace : Reader Unit := fun cursor =>
  some ((), if cursor.flags.verbose then { cursor with rest := skipVerbose false cursor.rest }
    else cursor)

def nextThenSpace : Reader Char := do
  let c ← next
  skipSpace
  return c

/-- Characters as long as they satisfy the test. -/
def takeWhile (test : Char → Bool) : Reader (List Char) := fun cursor =>
  some (cursor.rest.takeWhile test, { cursor with rest := cursor.rest.dropWhile test })

/-- What a backslash with what follows it stands for. -/
inductive Escape where
  | char (c : Char)
  | set (set : CharSet)
  | place (place : Place)

def isMeta (c : Char) : Bool :=
  ['\\', '.', '+', '*', '?', '(', ')', '|', '[', ']', '\x7b', '\x7d', '^', '$', '#', '&', '-', '~'].contains c

/-- Every character of ASCII that is no letter, digit or angle bracket may be escaped. -/
def isEscapable (c : Char) : Bool :=
  isMeta c || (c.toNat < 128 && !c.isAlphanum && c != '<' && c != '>')

def hexDigit? (c : Char) : Option Nat :=
  if c.isDigit then some (c.toNat - '0'.toNat)
  else if CharSet.range 'a' 'f' c then some (c.toNat - 'a'.toNat + 10)
  else if CharSet.range 'A' 'F' c then some (c.toNat - 'A'.toNat + 10)
  else none

/-- The number that hexadecimal digits stand for; none for no digits. -/
def hexValue (digits : List Char) : Option Nat :=
  digits.foldl (fun acc c => acc.bind fun n => (hexDigit? c).map (16 * n + ·))
    (if digits.isEmpty then none else some 0)

def charOfCode (code : Option Nat) : Reader Char := do
  match code with
  | some n => if n.isValidChar then return Char.ofNat n else failure
  | none => failure

/-- The text up to a closing brace, which is taken too. -/
def bracedText : Reader (List Char) := do
  skipSpace
  go (← get).rest.length
where
  go : Nat → Reader (List Char)
    | 0 => failure
    | more + 1 => do
      if ← accept ['\x7d'] then return []
      let c ← nextThenSpace
      return c :: (← go more)

/-- So many characters. -/
def characters : Nat → Reader (List Char)
  | 0 => return []
  | more + 1 => do
    let c ← nextThenSpace
    return c :: (← characters more)

/-- So many hexadecimal digits, or any number of them in braces. Without the alphabet of Unicode two
digits are a byte, and a byte beyond ASCII would split characters. -/
def hexEscape (width : Nat) : Reader Char := do
  skipSpace
  if ← accept ['\x7b'] then
    let c ← charOfCode (hexValue (← bracedText))
    skipSpace
    return c
  else
    let c ← charOfCode (hexValue (← characters width))
    if width = 2 && !(← flags).unicode && 128 ≤ c.toNat then failure
    return c

/-- The text before the first place where the separator stands, and the text after it. -/
def splitAtText (separator : List Char) : List Char → Option (List Char × List Char)
  | [] => none
  | c :: rest =>
      if separator.isPrefixOf (c :: rest) then some ([], (c :: rest).drop separator.length)
      else (splitAtText separator rest).map fun (before, after) => (c :: before, after)

/-- A set by its name, or by a property and its value; `!=` asks for all other characters. -/
def bracedProperty (name : List Char) : Option (Bool × CharSet) :=
  match splitAtText ['!', '='] name with
  | some (property, value) => (valuedSet? property value).map (true, ·)
  | none =>
    match (splitAtText [':'] name).or (splitAtText ['='] name) with
    | some (property, value) => (valuedSet? property value).map (false, ·)
    | none => (namedSet? name).map (false, ·)

def foldedIf (flags : Flags) (set : CharSet) : CharSet :=
  if flags.ignoreCase then CharSet.folded flags.unicode set else set

def propertyEscape (negated : Bool) : Reader Escape := do
  let flags ← flags
  if !flags.unicode then failure
  skipSpace
  let found ← do
    if ← accept ['\x7b'] then
      pure (bracedProperty (← bracedText))
    else
      let c ← next
      if c = '\\' then failure
      skipSpace
      pure ((namedSet? [c]).map (false, ·))
  match found with
  | some (differs, set) => return .set (CharSet.negateIf (negated != differs) (foldedIf flags set))
  | none => failure

def isPlaceName (c : Char) : Bool := c.isAlpha || c == '-'

/-- The name of a place, as long as its characters come. -/
def placeName : Nat → Reader (List Char)
  | 0 => return []
  | more + 1 => do
    if (← peek).any isPlaceName then
      let c ← nextThenSpace
      return c :: (← placeName more)
    else return []

/-- A word boundary, or one of its variants named in braces. Braces that hold no name count repetitions. -/
def boundaryEscape : Reader Escape := do
  let unicode := (← flags).unicode
  let beforeBrace ← get
  if !(← accept ['\x7b']) then return .place (.wordBoundary unicode)
  skipSpace
  let name ← placeName (← get).rest.length
  if name.isEmpty then
    set beforeBrace
    return .place (.wordBoundary unicode)
  expect '\x7d'
  if name = "start".toList then return .place (.wordStart unicode)
  else if name = "end".toList then return .place (.wordEnd unicode)
  else if name = "start-half".toList then return .place (.halfStart unicode)
  else if name = "end-half".toList then return .place (.halfEnd unicode)
  else failure

/-- Without the alphabet of Unicode no set may be negated, since it would split characters. -/
def perlSet (negated : Bool) (ofUnicode ofAscii : CharSet) : Reader Escape := do
  let unicode := (← flags).unicode
  if negated && !unicode then failure
  return .set (CharSet.negateIf negated (if unicode then ofUnicode else ofAscii))

/-- What stands after a backslash. -/
def escape : Reader Escape := do
  let unicode := (← flags).unicode
  let c ← next
  match c with
  | 'x' => return .char (← hexEscape 2)
  | 'u' => return .char (← hexEscape 4)
  | 'U' => return .char (← hexEscape 8)
  | 'p' => propertyEscape false
  | 'P' => propertyEscape true
  | 'd' => perlSet false Text.isDecimalDigit Char.isDigit
  | 'D' => perlSet true Text.isDecimalDigit Char.isDigit
  | 's' => perlSet false Text.isBlank asciiSpace
  | 'S' => perlSet true Text.isBlank asciiSpace
  | 'w' => perlSet false Text.isWord asciiWord
  | 'W' => perlSet true Text.isWord asciiWord
  | 'a' => return .char '\x07'
  | 'f' => return .char '\x0c'
  | 't' => return .char '\t'
  | 'n' => return .char '\n'
  | 'r' => return .char '\r'
  | 'v' => return .char '\x0b'
  | 'A' => return .place .textStart
  | 'z' => return .place .textEnd
  | 'b' => boundaryEscape
  | 'B' => return .place (.noWordBoundary unicode)
  | '<' => return .place (.wordStart unicode)
  | '>' => return .place (.wordEnd unicode)
  | c => if isEscapable c then return .char c else failure

inductive SetOperator where
  | intersection
  | difference
  | symmetricDifference

def SetOperator.apply : SetOperator → CharSet → CharSet → CharSet
  | intersection => CharSet.intersection
  | difference => CharSet.difference
  | symmetricDifference => CharSet.symmetricDifference

/-- Groups, sets, repetitions, sequences and choices are nested no deeper than this. -/
def greatestDepth : Nat := 250

/-- What was read, and how deep its parts are nested. -/
structure Nested (α : Type) where
  value : α
  depth : Nat

/-- A set under construction: the operation that waits for its second operand, and the union so far with
the number and the depth of its items. -/
structure SetDraft where
  waiting : Option (Nested CharSet × SetOperator)
  union : CharSet
  items : Nat
  depth : Nat

def SetDraft.add (draft : SetDraft) (item : Nested CharSet) : SetDraft :=
  { draft with
    union := draft.union.union item.value
    items := draft.items + 1
    depth := max draft.depth item.depth }

def SetDraft.complete (draft : SetDraft) (flags : Flags) : Nested CharSet :=
  let operand := foldedIf flags draft.union
  let depth := if draft.items ≤ 1 then draft.depth else draft.depth + 1
  match draft.waiting with
  | none => ⟨operand, depth⟩
  | some (first, operator) => ⟨operator.apply first.value operand, max first.depth depth + 1⟩

def emptySet : CharSet := fun _ => false

def draftAfter (waiting : Option (Nested CharSet × SetOperator)) : SetDraft :=
  ⟨waiting, emptySet, 0, 0⟩

/-- The start of a bracketed set: whether it is negated, and the hyphens or the closing bracket that
stand for themselves there. -/
def openSet : Reader (Bool × SetDraft) := do
  skipSpace
  let negated ← accept ['^']
  if negated then skipSpace
  let draft ← hyphens (← get).rest.length (draftAfter none)
  if draft.items = 0 && (← peek) == some ']' then
    let _ ← nextThenSpace
    return (negated, draft.add ⟨(· == ']'), 0⟩)
  else return (negated, draft)
where
  hyphens : Nat → SetDraft → Reader SetDraft
    | 0, draft => return draft
    | more + 1, draft => do
      if (← peek) == some '-' then
        let _ ← nextThenSpace
        hyphens more (draft.add ⟨(· == '-'), 0⟩)
      else return draft

/-- A class of ASCII such as `[:alpha:]`, if one comes next. As with all sets, it can be negated only in the
alphabet of Unicode. -/
def asciiClass? : Reader (Option CharSet) := do
  let cursor ← get
  match cursor.rest with
  | '[' :: ':' :: rest =>
    let (negated, rest) := match rest with
      | '^' :: rest => (true, rest)
      | rest => (false, rest)
    let name := rest.takeWhile (· != ':')
    match rest.dropWhile (· != ':'), asciiNames.lookup (String.ofList name) with
    | ':' :: ']' :: rest, some found =>
      if negated && !cursor.flags.unicode then failure
      set { cursor with rest }
      return some (CharSet.negateIf negated (foldedIf cursor.flags found))
    | _, _ => return none
  | _ => return none

/-- One end of a range, or an item of its own. -/
def setItem : Reader Escape := do
  let c ← next
  if c = '\\' then escape else return .char c

/-- Without the alphabet of Unicode only characters of ASCII are members of sets. -/
def setMember (c : Char) : Reader Char := do
  if !(← flags).unicode && 128 ≤ c.toNat then failure
  return c

/-- The character that decides what a hyphen before it means: a closing bracket or a second hyphen leaves
it to stand for itself, any other makes a range. Where blanks do not count it is the next character that is
none, and of a comment only the sign at its start is passed over. -/
def decidingCharacter : Reader (Option Char) := fun cursor =>
  let rest := cursor.rest.tail
  let decidesAmong := if !cursor.flags.verbose then rest
    else match rest.dropWhile Text.isBlank with
      | '#' :: comment => comment.dropWhile Text.isBlank
      | rest => rest
  some (decidesAmong.head?, cursor)

/-- A range or a single item of a bracketed set. -/
def setRange : Reader CharSet := do
  let first ← setItem
  skipSpace
  let deciding ← decidingCharacter
  let isRange := (← peek) == some '-' && deciding != some ']' && deciding != some '-'
  if isRange then
    let _ ← nextThenSpace
    match first, ← setItem with
    | .char first, .char last =>
      let first ← setMember first
      let last ← setMember last
      if first ≤ last then return CharSet.range first last else failure
    | _, _ => failure
  else
    match first with
    | .char c =>
      let c ← setMember c
      return (· == c)
    | .set set => return set
    | .place _ => failure

/-- The rest of a bracketed set, up to its closing bracket. -/
def bracketed : Nat → Nat → Bool → SetDraft → Reader (Nested CharSet)
  | 0, _, _, _ => failure
  | more + 1, level, negated, draft => do
    skipSpace
    match ← peek, ← peekSecond with
    | none, _ => failure
    | some '[', _ =>
      match ← asciiClass? with
      | some set => bracketed more level negated (draft.add ⟨set, 0⟩)
      | none =>
        advance 1
        if greatestDepth < level then failure
        let (innerNegated, inner) ← openSet
        let set ← bracketed more (level + 1) innerNegated inner
        bracketed more level negated (draft.add set)
    | some ']', _ =>
      advance 1
      let flags ← flags
      if negated && !flags.unicode then failure
      let whole := draft.complete flags
      return ⟨CharSet.negateIf negated whole.value, whole.depth + 1⟩
    | some '&', some '&' => operator more level negated draft .intersection
    | some '-', some '-' => operator more level negated draft .difference
    | some '~', some '~' => operator more level negated draft .symmetricDifference
    | _, _ =>
      let set ← setRange
      bracketed more level negated (draft.add ⟨set, 0⟩)
where
  operator (more level : Nat) (negated : Bool) (draft : SetDraft) (operator : SetOperator) :
      Reader (Nested CharSet) := do
    advance 2
    let first := draft.complete (← flags)
    bracketed more level negated (draftAfter (some (first, operator)))

/-- One part of a sequence; a change of flags is a part that cannot be repeated. -/
inductive Part where
  | body (pattern : Nested Pattern)
  | flagChange

def Part.toNested : Part → Nested Pattern
  | body pattern => pattern
  | flagChange => ⟨.empty, 0⟩

def greatestDepthOf (parts : List (Nested Pattern)) : Nat :=
  parts.foldl (fun depth part => max depth part.depth) 0

/-- Several patterns as one, which is a level of its own if there are at least two. -/
def joined (join : List Pattern → Pattern) (parts : List (Nested Pattern)) : Nested Pattern :=
  ⟨join (parts.map (·.value)),
    if parts.length ≤ 1 then greatestDepthOf parts else greatestDepthOf parts + 1⟩

/-- The parts of a sequence come last one first. -/
def sequenced (parts : List Part) : Nested Pattern :=
  joined ofSequence (parts.reverse.map Part.toNested)

def close (branches : List (Nested Pattern)) (parts : List Part) : Nested Pattern :=
  joined ofChoices (sequenced parts :: branches).reverse

/-- The character, with its case variants where case is ignored. -/
def literal (flags : Flags) (c : Char) : Pattern :=
  .character (if !flags.ignoreCase then [c]
    else if flags.unicode then Text.caseVariants c else [c.toLower, c.toUpper])

def dot (flags : Flags) : Reader Pattern := do
  if !flags.unicode then failure
  if flags.dotAll then return .single fun _ => true
  else if flags.carriage then return .single fun c => c != '\n' && c != '\r'
  else return .single (· != '\n')

/-- A character that stands for itself, or one of the conditions and sets that a character means. -/
def primitive : Reader Pattern := do
  let flags ← flags
  let c ← next
  match c with
  | '\\' =>
    match ← escape with
    | .char c => return literal flags c
    | .set set => return .single set
    | .place condition => return .place condition
  | '.' => dot flags
  | '^' => return .place (if flags.multiLine then .lineStart flags.carriage else .textStart)
  | '$' => return .place (if flags.multiLine then .lineEnd flags.carriage else .textEnd)
  | c => return literal flags c

/-- A repetition of the last part, lazy if a question mark follows. -/
def repeated (parts : List Part) (least : Nat) (most : Option Nat) : Reader (List Part) := do
  let lazy ← accept ['?']
  let swap := (← flags).swapGreed
  match parts with
  | .body pattern :: before =>
    if greatestDepth ≤ pattern.depth then failure
    return .body ⟨pattern.value.repeatedly least most (lazy == swap), pattern.depth + 1⟩ :: before
  | _ => failure

def greatestCount : Nat := 4294967295

/-- A count, with blanks around it. -/
def count : Reader Nat := do
  let _ ← takeWhile Text.isBlank
  let digits ← digits (← get).rest.length
  let _ ← takeWhile Text.isBlank
  skipSpace
  let n := Decimal.natOfDigits digits
  if digits.isEmpty || greatestCount < n then failure
  return n
where
  digits : Nat → Reader (List Char)
    | 0 => return []
    | more + 1 => do
      match ← peek with
      | some c =>
        if c.isDigit then
          let _ ← nextThenSpace
          return c :: (← digits more)
        else return []
      | none => return []

/-- A repetition with counts in braces. -/
def counted (parts : List Part) : Reader (List Part) := do
  let _ ← nextThenSpace
  let least ← count
  let most ← do
    if (← peek) == some ',' then
      let _ ← nextThenSpace
      if (← peek) == some '\x7d' then pure none
      else pure (some (← count))
    else pure (some least)
  expect '\x7d'
  skipSpace
  if most.any (· < least) then failure
  repeated parts least most

def setFlag (on : Bool) (flags : Flags) : Char → Option Flags
  | 'i' => some { flags with ignoreCase := on }
  | 'm' => some { flags with multiLine := on }
  | 's' => some { flags with dotAll := on }
  | 'U' => some { flags with swapGreed := on }
  | 'R' => some { flags with carriage := on }
  | 'x' => some { flags with verbose := on }
  | 'u' => some { flags with unicode := on }
  | _ => none

/-- Flags up to the character that ends them: each at most once, and some after a hyphen. -/
def flagList : List Char → Bool → List Char → Flags → Option (Flags × List Char)
  | [], _, _, _ => none
  | c :: rest, negated, seen, flags =>
      if c = ':' || c = ')' then
        if seen.head? = some '-' then none else some (flags, c :: rest)
      else if seen.contains c then none
      else if c = '-' then flagList rest true (c :: seen) flags
      else (setFlag (!negated) flags c).bind (flagList rest negated (c :: seen))

def isNameChar (first : Bool) (c : Char) : Bool :=
  c == '_' || (if first then Text.isAlphabetic c
    else c == '.' || c == '[' || c == ']' || Text.isAlphanumeric c)

/-- The name of a group, up to the closing angle bracket. -/
def groupName : Reader String := do
  let name ← takeWhile (· != '>')
  expect '>'
  match name with
  | [] => failure
  | first :: rest =>
    if isNameChar true first && rest.all (isNameChar false) then return String.ofList name
    else failure

/-- What the start of a group says about it. -/
inductive Opening where
  | numbered (index : Nat)
  | unnumbered
  | flagChange

def newGroup (name : Option String) : Reader Opening := fun cursor =>
  let index := cursor.groups + 1
  match name with
  | none => some (.numbered index, { cursor with groups := index })
  | some name =>
    if Fields.has cursor.names name then none
    else some (.numbered index,
      { cursor with groups := index, names := Fields.put cursor.names name index })

/-- The start of a group, after its parenthesis. Conditions that look around are not known. -/
def opening : Reader Opening := do
  skipSpace
  if (← accept "?=".toList) || (← accept "?!".toList) || (← accept "?<=".toList)
      || (← accept "?<!".toList) then failure
  else if (← accept "?P<".toList) || (← accept "?<".toList) then newGroup (some (← groupName))
  else if ← accept ['?'] then
    let cursor ← get
    match flagList cursor.rest false [] cursor.flags with
    | none => failure
    | some (flags, rest) =>
      let changed := rest.length < cursor.rest.length
      set { cursor with rest, flags }
      if (← next) = ':' then return .unnumbered
      else if changed then return .flagChange
      else failure
  else newGroup none

/-- Branches and parts up to the end of the group or of the text. -/
def branches : Nat → Nat → List (Nested Pattern) → List Part → Reader (Nested Pattern)
  | 0, _, _, _ => failure
  | more + 1, level, done, parts => do
    skipSpace
    match ← peek with
    | none => return close done parts
    | some ')' => return close done parts
    | some '|' =>
      advance 1
      branches more level (sequenced parts :: done) []
    | some '(' =>
      advance 1
      if greatestDepth < level then failure
      let outer ← flags
      match ← opening with
      | .flagChange => branches more level done (.flagChange :: parts)
      | .unnumbered =>
        let body ← branches more (level + 1) [] []
        expect ')'
        setFlags outer
        branches more level done (.body { body with depth := body.depth + 1 } :: parts)
      | .numbered index =>
        let body ← branches more (level + 1) [] []
        expect ')'
        setFlags outer
        branches more level done (.body ⟨.group index body.value, body.depth + 1⟩ :: parts)
    | some '[' =>
      advance 1
      let (negated, draft) ← openSet
      let set ← bracketed more level negated draft
      branches more level done (.body ⟨.single set.value, set.depth⟩ :: parts)
    | some '*' =>
      advance 1
      branches more level done (← repeated parts 0 none)
    | some '+' =>
      advance 1
      branches more level done (← repeated parts 1 none)
    | some '?' =>
      advance 1
      branches more level done (← repeated parts 0 (some 1))
    | some '\x7b' => branches more level done (← counted parts)
    | some _ => branches more level done (.body ⟨← primitive, 0⟩ :: parts)

end Reading

/-- A pattern with the names of its groups. -/
structure Compiled where
  pattern : Pattern
  groups : Nat
  names : Fields Nat

/-- Patterns that are nested too deep or weigh too much are refused too. -/
def ofText? (text : String) (ignoreCase : Bool) : Option Compiled := do
  let chars := text.toList
  let start : Reading.Cursor := ⟨chars, { ignoreCase }, 0, []⟩
  let (pattern, cursor) ← Reading.branches (chars.length + 1) 0 [] [] start
  if cursor.rest.isEmpty && pattern.depth ≤ Reading.greatestDepth && pattern.value.isLight then
    some ⟨pattern.value, cursor.groups, cursor.names⟩
  else none

end Stencil.Pattern
