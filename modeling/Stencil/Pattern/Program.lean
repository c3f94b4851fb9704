import Stencil.Pattern.Basic

/-!
A pattern as a table of steps, each of which names the steps after it. Of two ways on, the first is the
preferred one. The table is built from its end, so that every step knows where it leads; the step of a
repetition is put in place first and told where its body begins afterwards.
-/
namespace Stencil.Pattern

inductive Step where
  | take (set : CharSet) (after : Nat)
  | require (place : Place) (after : Nat)
  | either (preferred other : Nat)
  | mark (slot : Nat) (after : Nat)
  | found

abbrev Steps := Array Step

/-- Prefer the way into the body, or the way past it. -/
def branch (greedy : Bool) (into past : Nat) : Step :=
  if greedy then .either into past else .either past into

/-- A table that was extended, and the number of the step to begin with. -/
abbrev Extend := Nat → Steps → Nat × Steps

def emitStep (step : Step) (steps : Steps) : Nat × Steps := (steps.size, steps.push step)

/-- The body so many times, one after another. -/
def emitTimes (body : Extend) : Nat → Extend
  | 0, after, steps => (after, steps)
  | count + 1, after, steps =>
      let (rest, steps) := emitTimes body count after steps
      body rest steps

/-- The body at most so many times; after each of them the way past all of the rest is open. -/
def emitUpTo (body : Extend) (greedy : Bool) (after : Nat) : Nat → Steps → Nat × Steps
  | 0, steps => (after, steps)
  | count + 1, steps =>
      let (rest, steps) := emitUpTo body greedy after count steps
      let (into, steps) := body rest steps
      emitStep (branch greedy into after) steps

/-- The body once and then any number of times: its start and the step behind it. -/
def emitOnce (body : Extend) (greedy : Bool) (after : Nat) (steps : Steps) : Nat × Nat × Steps :=
  let (again, steps) := emitStep .found steps
  let (into, steps) := body again steps
  (into, again, steps.setIfInBounds again (branch greedy into after))

/-- Any number of times. A body that may match nothing gets a way past it of its own, so that matching
nothing is not preferred to what the body prefers. -/
def emitAny (body : Extend) (mayBeEmpty greedy : Bool) : Extend := fun after steps =>
  let (into, again, steps) := emitOnce body greedy after steps
  if mayBeEmpty then emitStep (branch greedy into after) steps else (again, steps)

/-- The steps of the pattern in front of the step called `after`. -/
def emit : Pattern → Extend
  | empty => fun after steps => (after, steps)
  | character variants => fun after => emitStep (.take (variants.contains ·) after)
  | single set => fun after => emitStep (.take set after)
  | place condition => fun after => emitStep (.require condition after)
  | sequence first second => fun after steps =>
      let (middle, steps) := emit second after steps
      emit first middle steps
  | choice first second => fun after steps =>
      let (other, steps) := emit second after steps
      let (preferred, steps) := emit first after steps
      emitStep (.either preferred other) steps
  | group index body => fun after steps =>
      let (close, steps) := emitStep (.mark (2 * index + 1) after) steps
      let (into, steps) := emit body close steps
      emitStep (.mark (2 * index) into) steps
  | iterate body least none greedy => fun after steps =>
      match least with
      | 0 => emitAny (emit body) body.matchesNothing greedy after steps
      | more + 1 =>
        let (into, _, steps) := emitOnce (emit body) greedy after steps
        emitTimes (emit body) more into steps
  | iterate body least (some most) greedy => fun after steps =>
      let (rest, steps) := emitUpTo (emit body) greedy after (most - least) steps
      emitTimes (emit body) least rest steps

/-- The whole match is the group of number zero. -/
def toSteps (pattern : Pattern) : Nat × Steps :=
  let (found, steps) := emitStep .found #[]
  emit (group 0 pattern) found steps

end Stencil.Pattern
