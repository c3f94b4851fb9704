import Stencil.Decimal.Shortest

/-!
Written forms of a double. The digits are always the fewest that read back; a layout says how they are
set out: which exponents are written positionally, whether a whole number keeps `.0`, and which of two
equally near decimals is meant.
-/
namespace Stencil.Decimal

structure Layout where
  tie : Tie
  /-- The exponents of the first digit that are written positionally; all of them if absent. -/
  positional : Option (Int × Int)
  /-- Whether a whole number is written with `.0`. -/
  keepsPoint : Bool

/-- Never an exponent, and a whole number has no point. -/
def plain : Layout := ⟨.up, none, false⟩

/-- Positional from 1e-5 up to, but not including, 1e16; a whole number keeps `.0`. -/
def exact : Layout := ⟨.even, some (-5, 15), true⟩

namespace Layout

def isPositional (layout : Layout) (leading : Int) : Bool :=
  match layout.positional with
  | none => true
  | some (least, greatest) => least ≤ leading && leading ≤ greatest

def wholeEnding (layout : Layout) : List Char := if layout.keepsPoint then ['.', '0'] else []

/-- The digits with the point after as many of them as the leading exponent asks. -/
def positionalText (layout : Layout) (digits : List Char) (leading : Int) : List Char :=
  if leading < 0 then
    '0' :: '.' :: (List.replicate (-leading - 1).toNat '0' ++ digits)
  else
    let whole := leading.toNat + 1
    if digits.length ≤ whole then
      digits ++ List.replicate (whole - digits.length) '0' ++ layout.wholeEnding
    else
      digits.take whole ++ '.' :: digits.drop whole

/-- One digit before the point, and an exponent with its sign. -/
def scientificText (digits : List Char) (leading : Int) : List Char :=
  let mantissa := match digits with
    | first :: second :: rest => first :: '.' :: second :: rest
    | short => short
  let sign := if leading < 0 then '-' else '+'
  mantissa ++ 'e' :: sign :: Nat.toDigits 10 leading.natAbs

def digitsText (layout : Layout) (number : Digits) : List Char :=
  let digits := Nat.toDigits 10 number.coefficient
  let leading := number.exponent + digits.length - 1
  if layout.isPositional leading then layout.positionalText digits leading
  else scientificText digits leading

def magnitudeText (layout : Layout) : Magnitude → List Char
  | .zero => '0' :: layout.wholeEnding
  | .finite value => layout.digitsText (value.shortest layout.tie)
  | .infinite => ['i', 'n', 'f']
  | .undefined => ['N', 'a', 'N']

def write (layout : Layout) (value : Float) : String :=
  let bits := value.toBits.toNat
  let text := layout.magnitudeText (Magnitude.ofBits bits)
  String.ofList (if isNegative bits && !value.isNaN then '-' :: text else text)

end Layout

end Stencil.Decimal
