/-!
Doubles read from decimal text: an optional sign, then digits with at most one point and an optional
exponent, or one of the words for infinity and the undefined number. The result is the double nearest to
the number that is written.
-/
namespace Stencil.Decimal

def natOfDigits (digits : List Char) : Nat :=
  digits.foldl (fun acc c => 10 * acc + (c.toNat - '0'.toNat)) 0

/-- The double nearest to `coefficient * 10 ^ exponent`. Far outside the range of doubles the answer is
known without computing the power. -/
def nearest (coefficient : Nat) (exponent : Int) : Float :=
  let leading := exponent + (Nat.toDigits 10 coefficient).length
  if coefficient = 0 || leading < -400 then 0.0
  else if 400 < leading then 1.0 / 0.0
  else if exponent < 0 then Float.ofScientific coefficient true exponent.natAbs
  else Float.ofScientific coefficient false exponent.natAbs

def splitSign : List Char → Bool × List Char
  | '-' :: rest => (true, rest)
  | '+' :: rest => (false, rest)
  | text => (false, text)

def applySign (negative : Bool) (value : Float) : Float := if negative then -value else value

/-- The exponent that a text ends in: nothing is zero, a bare mark is no exponent. -/
def exponentOf? : List Char → Option Int
  | [] => some 0
  | mark :: rest =>
      if mark = 'e' || mark = 'E' then
        let (negative, digits) := splitSign rest
        if digits.isEmpty || !digits.all Char.isDigit then none
        else some (if negative then -natOfDigits digits else natOfDigits digits)
      else none

def unsignedOf? (text : List Char) : Option Float :=
  let (whole, rest) := text.span Char.isDigit
  let (fraction, tail) := match rest with
    | '.' :: after => after.span Char.isDigit
    | _ => ([], rest)
  if whole.isEmpty && fraction.isEmpty then none
  else (exponentOf? tail).map fun exponent =>
    nearest (natOfDigits (whole ++ fraction)) (exponent - fraction.length)

def wordOf? (text : List Char) : Option Float :=
  let lowered := String.ofList (text.map Char.toLower)
  if lowered = "inf" || lowered = "infinity" then some (1.0 / 0.0)
  else if lowered = "nan" then some (0.0 / 0.0)
  else none

def floatOf? (text : List Char) : Option Float :=
  let (negative, body) := splitSign text
  ((unsignedOf? body).or (wordOf? body)).map (applySign negative)

end Stencil.Decimal
