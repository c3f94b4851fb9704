import Stencil.Source.Segment

/-!
The scanner that cuts a source into segments, character by character. A brace may open a tag, and inside a
tag its closing mark may end it; which of the two it is, is known at the character behind. Where it is
neither, that character is read again as if the other had not been there.
-/
namespace Stencil.Source

/-- A stretch of the source, as long as it is so far, with all that follows its start. -/
structure Stretch where
  source : List Char
  length : Nat
deriving DecidableEq, Repr

namespace Stretch

def text (stretch : Stretch) : List Char := stretch.source.take stretch.length

def grow (stretch : Stretch) : Stretch := { stretch with length := stretch.length + 1 }

end Stretch

inductive ScanState where
  | plain
  /-- Behind a brace that may open a tag. -/
  | brace
  /-- Inside a tag that was opened on the line. -/
  | inTag (delimiter : Delimiter) (content : Stretch) (line : Nat)
  /-- Behind a closing mark that may end the tag. -/
  | closing (delimiter : Delimiter) (content : Stretch) (line : Nat)
deriving DecidableEq, Repr

/-- The state, the text that waits to be handed out with the line of its start, and the current line. -/
structure Scanner where
  state : ScanState
  text : Stretch
  textLine : Nat
  line : Nat
deriving DecidableEq, Repr

/-- What the scanner hands out: the pieces of the source and, at its end, what is left of it. -/
inductive Scanned where
  | text (text : List Char) (line : Nat) (scanner : Scanner) (rest : List Char)
  | tag (delimiter : Delimiter) (content : List Char) (line : Nat) (scanner : Scanner) (rest : List Char)
  | ended (last : Segments)

/-- Where one character leads, and what it completes. -/
inductive ScanStep where
  | goesOn (scanner : Scanner)
  | text (text : List Char) (line : Nat) (scanner : Scanner)
  | tag (delimiter : Delimiter) (content : List Char) (line : Nat) (scanner : Scanner)

namespace Scanner

/-- Before a source whose first character is on the line. -/
def start (source : List Char) (line : Nat) : Scanner := ⟨.plain, ⟨source, 0⟩, line, line⟩

def nextLine (scanner : Scanner) (c : Char) : Nat :=
  if c = '\n' then scanner.line + 1 else scanner.line

def stepPlain (scanner : Scanner) (c : Char) : Scanner :=
  if c = '\x7b' then { scanner with state := .brace }
  else { scanner with state := .plain, text := scanner.text.grow, line := scanner.nextLine c }

def stepInTag (scanner : Scanner) (delimiter : Delimiter) (content : Stretch) (line : Nat) (c : Char) :
    Scanner :=
  if c = delimiter.closing then { scanner with state := .closing delimiter content line }
  else { scanner with state := .inTag delimiter content.grow line, line := scanner.nextLine c }

/-- The step at a character, with what stands behind it. -/
def step (scanner : Scanner) (c : Char) (rest : List Char) : ScanStep :=
  match scanner.state with
  | .plain => .goesOn (scanner.stepPlain c)
  | .brace =>
    match Delimiter.ofMark? c with
    | none => .goesOn ({ scanner with text := scanner.text.grow }.stepPlain c)
    | some delimiter =>
      let opened := { scanner with state := .inTag delimiter ⟨rest, 0⟩ scanner.line }
      if scanner.text.length = 0 then .goesOn opened
      else .text scanner.text.text scanner.textLine opened
  | .inTag delimiter content line => .goesOn (scanner.stepInTag delimiter content line c)
  | .closing delimiter content line =>
    if c ≠ '\x7d' then .goesOn (scanner.stepInTag delimiter content.grow line c)
    else
      let ended := start rest scanner.line
      if delimiter = .comment then .goesOn ended else .tag delimiter content.text line ended

/-- What is left at the end of the source. -/
def finish (scanner : Scanner) : Segments :=
  match scanner.state with
  | .plain | .brace => ⟨textSegment scanner.text.source scanner.textLine, none⟩
  | .inTag delimiter _ line | .closing delimiter _ line =>
    ⟨[], some (line, .unclosedDelimiter delimiter.opening)⟩

/-- The next piece. -/
def next (scanner : Scanner) : List Char → Scanned
  | [] => .ended scanner.finish
  | c :: rest =>
    match scanner.step c rest with
    | .goesOn scanner => scanner.next rest
    | .text text line scanner => .text text line scanner rest
    | .tag delimiter content line scanner => .tag delimiter content line scanner rest

/-- The body of a raw tag behind it, up to its end tag, and the scanner behind that. -/
def takeRaw (scanner : Scanner) (rest : List Char) : Option (RawBody × Scanner) :=
  (rawRun rest).map fun run =>
    (run, start run.after (scanner.line + lineEnds run.body + lineEnds run.closer))

theorem length_next {scanner : Scanner} {source rest : List Char} :
    (∀ {text line after}, scanner.next source = .text text line after rest → rest.length < source.length) ∧
    ∀ {delimiter content line after}, scanner.next source = .tag delimiter content line after rest →
      rest.length < source.length := by
  induction source generalizing scanner with
  | nil => exact ⟨nofun, nofun⟩
  | cons c source ih =>
    rw [next]
    cases scanner.step c source with
    | goesOn scanner =>
      exact ⟨fun h => Nat.lt_succ_of_lt (ih.1 h), fun h => Nat.lt_succ_of_lt (ih.2 h)⟩
    | text text line scanner =>
      refine ⟨?_, nofun⟩
      rintro _ _ _ ⟨⟩
      exact Nat.lt_succ_self _
    | tag delimiter content line scanner =>
      refine ⟨nofun, ?_⟩
      rintro _ _ _ _ ⟨⟩
      exact Nat.lt_succ_self _

theorem length_takeRaw {scanner after : Scanner} {rest : List Char} {run : RawBody}
    (h : scanner.takeRaw rest = some (run, after)) : run.after.length < rest.length := by
  obtain ⟨run, hrun, ⟨⟩⟩ := Option.map_eq_some_iff.mp h
  exact length_rawRun hrun

/-- All segments of a source that the scanner stands before. Behind the logic tags that are raw, the bodies
are taken as they stand. -/
def collect (isRaw : List Char → Bool) (scanner : Scanner) (source : List Char) : Segments :=
  match hnext : scanner.next source with
  | .ended last => last
  | .text text line scanner rest =>
    have := length_next.1 hnext
    (collect isRaw scanner rest).before [.text text line]
  | .tag delimiter content line scanner rest =>
    have := length_next.2 hnext
    if delimiter = .output then (collect isRaw scanner rest).before [.output content line]
    else if isRaw content then
      match hraw : scanner.takeRaw rest with
      | none => ⟨[], some (line, .unclosedRaw)⟩
      | some (run, scanner) =>
        have := length_takeRaw hraw
        (collect isRaw scanner run.after).before [.raw content line run.body run.closer]
    else (collect isRaw scanner rest).before [.logic content line]
termination_by source.length

end Scanner

def segments (source : String) : Segments :=
  (Scanner.start source.toList 1).collect (fun content => (TagText.ofContent content).opensRaw) source.toList

end Stencil.Source
