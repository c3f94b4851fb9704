/-!
The fewest decimal digits that read back as a given double. A double stands for the interval of all
numbers that round to it; on the decimal grids of one digit, two digits and so on, the first grid with
a point in that interval gives the answer. If a point of a grid lies in the interval then so does one
of the two neighbours of the value on that grid, so two candidates are enough.
-/
namespace Stencil.Decimal

/-- The number `significand * 2 ^ exponent`, with a significand above zero. At the lower end of a
binade the next double below is only half as far away as the next one above. -/
structure Dyadic where
  significand : Nat
  exponent : Int
  lowest : Bool

inductive Magnitude where
  | zero
  | finite (value : Dyadic)
  | infinite
  | undefined

/-- The magnitude that the 64 bits of a double encode; the sign bit is not looked at. -/
def Magnitude.ofBits (bits : Nat) : Magnitude :=
  let fraction := bits % 0x10000000000000
  let field : Nat := bits / 0x10000000000000 % 0x800
  if field = 2047 then
    if fraction = 0 then .infinite else .undefined
  else if field = 0 then
    if fraction = 0 then .zero else .finite ⟨fraction, -1074, false⟩
  else
    .finite ⟨0x10000000000000 + fraction, (field : Int) - 1075, fraction = 0 && 1 < field⟩

def isNegative (bits : Nat) : Bool := 0x8000000000000000 ≤ bits

/-- The number `coefficient * 10 ^ exponent`. -/
structure Digits where
  coefficient : Nat
  exponent : Int

/-- Which of two equally near decimals is taken. -/
inductive Tie where
  | even
  | up

/-- The least power of ten that brings the quotient to one or more, negated. -/
def subunitExponent : Nat → Nat → Nat → Int
  | 0, _, _ => 0
  | steps + 1, num, den => if den ≤ num then 0 else subunitExponent steps (10 * num) den - 1

/-- The exponent of the first digit of the quotient of two positive numbers. -/
def leadingExponent (num den : Nat) : Int :=
  if den ≤ num then (Nat.toDigits 10 (num / den)).length - 1
  else subunitExponent 400 num den

namespace Dyadic

/-- Numerator and denominator of `quarters * 2 ^ (exponent - 2) / 10 ^ grid`. -/
def scaled (d : Dyadic) (grid : Int) (quarters : Nat) : Nat × Nat :=
  let twos := d.exponent - 2
  (quarters * Nat.pow 2 twos.toNat * Nat.pow 10 (-grid).toNat,
    Nat.pow 2 (-twos).toNat * Nat.pow 10 grid.toNat)

/-- Whether `candidate * 10 ^ grid` rounds to the double. The ends of the interval do so exactly when
the significand is even. -/
def covers (d : Dyadic) (grid : Int) (candidate : Nat) : Bool :=
  let (low, den) := d.scaled grid (4 * d.significand - if d.lowest then 1 else 2)
  let (high, _) := d.scaled grid (4 * d.significand + 2)
  if d.significand % 2 = 0 then low ≤ candidate * den && candidate * den ≤ high
  else low < candidate * den && candidate * den < high

/-- The nearest point of the grid that rounds to the double, if there is one. -/
def onGrid (d : Dyadic) (tie : Tie) (grid : Int) : Option Nat :=
  let (num, den) := d.scaled grid (4 * d.significand)
  let below := num / den
  match d.covers grid below, d.covers grid (below + 1) with
  | false, false => none
  | true, false => some below
  | false, true => some (below + 1)
  | true, true =>
      if 2 * num < (2 * below + 1) * den then some below
      else if (2 * below + 1) * den < 2 * num then some (below + 1)
      else match tie with
        | .up => some (below + 1)
        | .even => some (if below % 2 = 0 then below else below + 1)

/-- The first grid that has a point for the double, going to finer and finer ones. -/
def shortestFrom (d : Dyadic) (tie : Tie) : Nat → Int → Digits
  | 0, _ => ⟨0, 0⟩
  | finer + 1, grid =>
      match d.onGrid tie grid with
      | some coefficient => ⟨coefficient, grid⟩
      | none => shortestFrom d tie finer (grid - 1)

/-- The search starts one grid above the first digit, because a value just below a power of ten may be
written as that power. Seventeen digits always suffice for a double. -/
def shortest (d : Dyadic) (tie : Tie) : Digits :=
  let (num, den) := d.scaled 0 (4 * d.significand)
  d.shortestFrom tie 18 (leadingExponent num den + 1)

end Dyadic

end Stencil.Decimal
