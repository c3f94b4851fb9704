import Stencil.Error
import Stencil.Source.TagText

/-!
The segments of a source. What lies between two tags is text, comments are dropped, and a raw tag is one
segment with its body, which goes up to its end tag. Each segment knows its line, one more than the line
ends before it.
-/
namespace Stencil.Source

inductive Delimiter where
  | output
  | logic
  | comment
deriving DecidableEq, Repr

namespace Delimiter

/-- The delimiter whose opening has this character behind its brace. -/
def ofMark? (c : Char) : Option Delimiter :=
  if c = '\x7b' then some output
  else if c = '%' then some logic
  else if c = '#' then some comment
  else none

def closing : Delimiter → Char
  | output => '\x7d'
  | logic => '%'
  | comment => '#'

def opening : Delimiter → String
  | output => "\x7b\x7b"
  | logic => "\x7b%"
  | comment => "\x7b#"

end Delimiter

/-- The content up to the first closing, and what follows that. -/
def tagRun (closing : Char) : List Char → Option (List Char × List Char)
  | [] => none
  | c :: rest =>
    if c = closing && rest.head? = some '\x7d' then some ([], rest.tail)
    else (tagRun closing rest).map fun (content, after) => (c :: content, after)

structure RawBody where
  body : List Char
  closer : List Char
  after : List Char

/-- What starts at a place in the body of a raw tag. -/
inductive RawStep where
  | plain
  | unclosed
  | closer (content after : List Char)

def rawStep (source : List Char) : RawStep :=
  match source with
  | '\x7b' :: '%' :: rest =>
    match tagRun '%' rest with
    | none => .unclosed
    | some (content, after) =>
      if (TagText.ofContent content).closesRaw then .closer content after else .plain
  | _ => .plain

/-- The body up to the first end tag of raw, that tag's content, and what follows it. A tag in the body
that never closes leaves the whole without an end. -/
def rawRun : List Char → Option RawBody
  | [] => none
  | c :: rest =>
    match rawStep (c :: rest) with
    | .closer content after => some ⟨[], content, after⟩
    | .unclosed => none
    | .plain => (rawRun rest).map fun run => { run with body := c :: run.body }

inductive Segment where
  | text (text : List Char) (line : Nat)
  | output (content : List Char) (line : Nat)
  | logic (content : List Char) (line : Nat)
  /-- A raw tag with its body and the content of its end tag. -/
  | raw (content : List Char) (line : Nat) (body closer : List Char)
deriving DecidableEq, Repr

def Segment.line : Segment → Nat
  | text _ line => line
  | output _ line => line
  | logic _ line => line
  | raw _ line _ _ => line

/-- The segments up to the end of the source or to the first tag that is not closed. -/
structure Segments where
  segments : List Segment
  fault : Option (Nat × Complaint)
deriving DecidableEq, Repr

def Segments.before (front : List Segment) (rest : Segments) : Segments :=
  { rest with segments := front ++ rest.segments }

def lineEnds (text : List Char) : Nat := text.count '\n'

/-- Text makes a segment unless it is empty. -/
def textSegment (text : List Char) (line : Nat) : List Segment :=
  if text.isEmpty then [] else [.text text line]

theorem length_tagRun {closing : Char} {source content after : List Char}
    (h : tagRun closing source = some (content, after)) :
    content.length + after.length + 2 = source.length := by
  induction source generalizing content with
  | nil => simp [tagRun] at h
  | cons c rest ih =>
    simp only [tagRun] at h
    split at h
    · rename_i hc
      simp only [Option.some.injEq, Prod.mk.injEq] at h
      obtain ⟨rfl, rfl⟩ := h
      cases rest with
      | nil => simp at hc
      | cons d rest => simp
    · obtain ⟨⟨content', after'⟩, hrun, hpair⟩ := Option.map_eq_some_iff.1 h
      simp only [Prod.mk.injEq] at hpair
      obtain ⟨rfl, rfl⟩ := hpair
      have := ih hrun
      simp only [List.length_cons]
      omega

theorem length_rawStep {source content after : List Char}
    (h : rawStep source = .closer content after) : after.length < source.length := by
  unfold rawStep at h
  split at h
  · split at h
    · simp at h
    · rename_i htag
      split at h
      · simp only [RawStep.closer.injEq] at h
        obtain ⟨rfl, rfl⟩ := h
        have := length_tagRun htag
        simp only [List.length_cons]
        omega
      · simp at h
  · simp at h

theorem length_rawRun {source : List Char} {run : RawBody} (h : rawRun source = some run) :
    run.after.length < source.length := by
  induction source generalizing run with
  | nil => simp [rawRun] at h
  | cons c rest ih =>
    simp only [rawRun] at h
    split at h
    · rename_i hstep
      simp only [Option.some.injEq] at h
      subst h
      exact length_rawStep hstep
    · simp at h
    · obtain ⟨r, hr, rfl⟩ := Option.map_eq_some_iff.1 h
      have := ih hr
      simp only [List.length_cons]
      omega

end Stencil.Source
