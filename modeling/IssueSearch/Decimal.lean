/-!
# Decimal numbers

Scores are exact fractions; they are shown as the decimal form of the binary
number with 53 digits that is nearest to them.

* `roundDiv`: a quotient rounded to the nearest integer, a half to the even one;
* `nearestBinary`: the nearest number with 53 binary digits;
* `fixed`: a given number of decimal places;
* `shortest`: the fewest decimal places that tell a binary number from its
  neighbours.
-/

namespace IssueSearch.Decimal

/-- The integer nearest to `num / den`, the even one of two. -/
def roundDiv (num den : Nat) : Nat :=
  let low := num / den
  let rest := num % den
  if 2 * rest < den then low
  else if den < 2 * rest then low + 1
  else if low % 2 = 0 then low
  else low + 1

/-- The exponent of the greatest power of two that is not above `num / den`. -/
def binaryExponent (num den : Nat) : Int :=
  let guess : Int := (Nat.log2 num : Int) - Nat.log2 den
  let reached :=
    if 0 ≤ guess then den * Nat.pow 2 guess.toNat ≤ num
    else den ≤ num * Nat.pow 2 (-guess).toNat
  if reached then guess else guess - 1

/-- The number with 53 binary digits that is nearest to a number, the one with
an even last digit of two.  Numbers that are not positive become zero. -/
def nearestBinary (x : Rat) : Rat :=
  if x.num ≤ 0 then 0
  else
    let num := x.num.toNat
    let scale := 52 - binaryExponent num x.den
    if 0 ≤ scale then
      let factor := Nat.pow 2 scale.toNat
      mkRat (roundDiv (num * factor) x.den) factor
    else
      let factor := Nat.pow 2 (-scale).toNat
      mkRat (roundDiv num (x.den * factor) * factor) 1

/-- A natural number of units of the last of some decimal places. -/
def writeUnits (places units : Nat) : String :=
  let digits := Nat.toDigits 10 units
  let padded := List.replicate (places + 1 - digits.length) '0' ++ digits
  let whole := padded.take (padded.length - places)
  let fraction := padded.drop (padded.length - places)
  String.ofList (if places = 0 then whole else whole ++ '.' :: fraction)

/-- A number that is not negative with a given number of decimal places. -/
def fixed (places : Nat) (x : Rat) : String :=
  writeUnits places (roundDiv (x.num.toNat * Nat.pow 10 places) x.den)

/-- The number with some decimal places that is nearest to a binary number, if
no other binary number is nearer to it. -/
def candidate? (x : Rat) (places : Nat) : Option Nat :=
  let scale := Nat.pow 10 places
  let num := x.num.toNat * scale
  let low := num / x.den
  let near := roundDiv num x.den
  let far := if near = low then low + 1 else low
  [near, far].find? fun units => nearestBinary (mkRat units scale) == x

/-- A binary number that is not negative with the fewest decimal places, at
least one, that tell it from its neighbours. -/
def shortest (x : Rat) : String :=
  match (List.range 25).findSome? fun places =>
    (candidate? x places).map fun units => (places, units) with
  | some (0, units) => writeUnits 1 (units * 10)
  | some (places, units) => writeUnits places units
  | none => fixed 25 x

end IssueSearch.Decimal
