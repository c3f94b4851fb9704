import Stencil.Pattern.Property

/-!
Patterns: characters with their variants, single characters out of a set, conditions on a place in the
text, sequences, ordered choices, repetitions that take as much or as little as they can, and numbered
groups.
-/
namespace Stencil

/-- Conditions on the place between two characters. -/
inductive Pattern.Place where
  | textStart
  | textEnd
  | lineStart (carriage : Bool)
  | lineEnd (carriage : Bool)
  | wordBoundary (unicode : Bool)
  | noWordBoundary (unicode : Bool)
  | wordStart (unicode : Bool)
  | wordEnd (unicode : Bool)
  | halfStart (unicode : Bool)
  | halfEnd (unicode : Bool)

inductive Pattern where
  | empty
  | character (variants : List Char)
  | single (set : Pattern.CharSet)
  | place (at? : Pattern.Place)
  | sequence (first second : Pattern)
  | choice (first second : Pattern)
  | iterate (body : Pattern) (least : Nat) (most : Option Nat) (greedy : Bool)
  | group (index : Nat) (body : Pattern)

namespace Pattern

def ofSequence : List Pattern → Pattern
  | [] => empty
  | [pattern] => pattern
  | pattern :: rest => sequence pattern (ofSequence rest)

def ofChoices : List Pattern → Pattern
  | [] => empty
  | [pattern] => pattern
  | pattern :: rest => choice pattern (ofChoices rest)

/-- Whether the pattern can match without taking a character. -/
def matchesNothing : Pattern → Bool
  | empty => true
  | character _ => false
  | single _ => false
  | place _ => true
  | sequence first second => first.matchesNothing && second.matchesNothing
  | choice first second => first.matchesNothing || second.matchesNothing
  | iterate body least _ _ => least == 0 || body.matchesNothing
  | group _ body => body.matchesNothing

/-- Whether the pattern takes no character in any of its matches. -/
def takesNothing : Pattern → Bool
  | empty => true
  | character _ => false
  | single _ => false
  | place _ => true
  | sequence first second => first.takesNothing && second.takesNothing
  | choice first second => first.takesNothing && second.takesNothing
  | iterate body _ most _ => most == some 0 || body.takesNothing
  | group _ body => body.takesNothing

/-- A repetition. What takes no character is not repeated, since once is as good as many times. -/
def repeatedly (body : Pattern) (least : Nat) (most : Option Nat) (greedy : Bool) : Pattern :=
  if body.takesNothing then iterate body (min least 1) (some (min (most.getD 1) 1)) greedy
  else iterate body least most greedy

def isWordAt (unicode : Bool) (c : Option Char) : Bool :=
  match c with
  | some c => if unicode then Text.isWord c else asciiWord c
  | none => false

/-- Whether the condition holds between the two characters; at either end of the text one is missing. -/
def Place.holds (before after : Option Char) : Place → Bool
  | textStart => before.isNone
  | textEnd => after.isNone
  | lineStart false => before.isNone || before == some '\n'
  | lineStart true =>
      before.isNone || before == some '\n' || (before == some '\r' && after != some '\n')
  | lineEnd false => after.isNone || after == some '\n'
  | lineEnd true =>
      after.isNone || after == some '\r' || (after == some '\n' && before != some '\r')
  | wordBoundary unicode => isWordAt unicode before != isWordAt unicode after
  | noWordBoundary unicode => isWordAt unicode before == isWordAt unicode after
  | wordStart unicode => !isWordAt unicode before && isWordAt unicode after
  | wordEnd unicode => isWordAt unicode before && !isWordAt unicode after
  | halfStart unicode => !isWordAt unicode before
  | halfEnd unicode => !isWordAt unicode after

end Pattern

end Stencil
