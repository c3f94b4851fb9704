import Stencil.Pattern.Program
import Stencil.Pattern.Reading

/-!
Searching a text. The leftmost match is taken, and of the matches there the one that the pattern
prefers. Ways on that were put off wait on a stack; a step that was tried at a place before is not tried
there again, since it failed the first time. The matches of a text do not overlap, and an empty match
right behind another one does not count.
-/
namespace Stencil.Pattern

/-- Where the groups begin and end, as far as they took part in the match: two slots a group. -/
abbrev Slots := Array (Option Nat)

structure Attempt where
  step : Nat
  position : Nat
  slots : Slots

structure Subject where
  start : Nat
  steps : Steps
  slotCount : Nat
  text : Array Char

namespace Subject

def before (subject : Subject) (position : Nat) : Option Char :=
  if position = 0 then none else subject.text[position - 1]?

/-- The attempts that continue this one, the preferred one first; none if it fails here. -/
def continue? (subject : Subject) (attempt : Attempt) : List Attempt :=
  match subject.steps[attempt.step]? with
  | some (.take set after) =>
    match subject.text[attempt.position]? with
    | some c =>
      if set c then [{ attempt with step := after, position := attempt.position + 1 }] else []
    | none => []
  | some (.require condition after) =>
      if condition.holds (subject.before attempt.position) subject.text[attempt.position]? then
        [{ attempt with step := after }]
      else []
  | some (.either preferred other) =>
      [{ attempt with step := preferred }, { attempt with step := other }]
  | some (.mark slot after) =>
      [{ attempt with
        step := after, slots := attempt.slots.setIfInBounds slot (some attempt.position) }]
  | _ => []

def isFound (subject : Subject) (attempt : Attempt) : Bool :=
  match subject.steps[attempt.step]? with
  | some .found => true
  | _ => false

/-- The number of an attempt among all pairs of a step and a place. -/
def code (subject : Subject) (attempt : Attempt) : Nat :=
  attempt.step * (subject.text.size + 1) + attempt.position

def codes (subject : Subject) : Nat := subject.steps.size * (subject.text.size + 1)

/-- Follow the attempts on the stack until one succeeds. Each pair of a step and a place is left at most
once and leaves at most two attempts, which bounds the work. -/
def explore (subject : Subject) : Nat → List Attempt → Array Bool → Option Slots × Array Bool
  | 0, _, tried => (none, tried)
  | _ + 1, [], tried => (none, tried)
  | more + 1, attempt :: waiting, tried =>
      let code := subject.code attempt
      if tried.getD code true then explore subject more waiting tried
      else if subject.isFound attempt then (some attempt.slots, tried)
      else explore subject more (subject.continue? attempt ++ waiting) (tried.setIfInBounds code true)

/-- The leftmost match that begins in one of the next `count` places. -/
def searchFrom (subject : Subject) : Nat → Nat → Array Bool → Option Slots
  | 0, _, _ => none
  | count + 1, position, tried =>
      let attempt := ⟨subject.start, position, Array.replicate subject.slotCount none⟩
      match subject.explore (2 * subject.codes + 2) [attempt] tried with
      | (some slots, _) => some slots
      | (none, tried) => searchFrom subject count (position + 1) tried

/-- The leftmost match at the position or behind it. -/
def search (subject : Subject) (position : Nat) : Option Slots :=
  subject.searchFrom (subject.text.size + 1 - position) position
    (Array.replicate subject.codes false)

/-- The whole match of the slots. -/
def span (slots : Slots) : Nat × Nat :=
  ((slots.getD 0 none).getD 0, (slots.getD 1 none).getD 0)

/-- All matches from the position on. The last end is where a match before ended. -/
def matchesFrom (subject : Subject) : Nat → Nat → Option Nat → List Slots
  | 0, _, _ => []
  | more + 1, position, lastEnd =>
      match subject.search position with
      | none => []
      | some slots =>
        let (first, last) := span slots
        if first = last && lastEnd = some last then
          matchesFrom subject more (position + 1) none
        else slots :: matchesFrom subject more last (some last)

def allMatches (subject : Subject) : List Slots :=
  subject.matchesFrom (2 * subject.text.size + 2) 0 none

end Subject

def Compiled.subject (compiled : Compiled) (text : List Char) : Subject :=
  let (start, steps) := compiled.pattern.toSteps
  ⟨start, steps, 2 * (compiled.groups + 1), text.toArray⟩

end Stencil.Pattern
