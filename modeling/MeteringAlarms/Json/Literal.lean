import MeteringAlarms.Json.Basic

/-!
# Number literals

The value of a number literal, given its parts. An integer that fits is exact. Every other literal
becomes a double in two rounded steps: the digits are gathered into a natural number for as long as
it fits 64 bits, the nearest double to it is taken, and that double is shifted by the power of ten
that remains. Digits beyond those 64 bits do not count. A short literal of moderate size is so read
as the nearest double, but a long one may be read as a neighbour of it.
-/

namespace MeteringAlarms.Number

/-- The greatest natural number that digits are gathered into. -/
def maxGathered : Nat := 18446744073709551615

/--
Appends digits to a natural number for as long as it does not grow beyond `maxGathered`, and counts
the digits that were appended.
-/
def gather (n : Nat) : List Char → Nat × Nat
  | [] => (n, 0)
  | c :: cs =>
    let next := 10 * n + Digits.decimalValue c
    if next ≤ maxGathered then
      let (n, count) := gather next cs
      (n, count + 1)
    else (n, 0)

/-- The double of a literal; `none` if it is beyond the greatest finite double. -/
def floatOf? (negative : Bool) (digits fraction : List Char) (exponent : Int) : Option Binary64 :=
  let (whole, kept) := gather 0 digits
  let (gathered, places) := gather whole fraction
  let left : Int := digits.length - kept
  Binary64.ofRatio? negative gathered 1 >>= (·.shift? (left - places + exponent))

/--
The number of a literal. Without fraction and exponent it is an integer when it fits, save that
minus zero is the double.
-/
def ofLiteral? (negative : Bool) (digits : List Char) (fraction? : Option (List Char))
    (exponent? : Option Int) : Option Number :=
  let n : Int := Digits.ofDecimal digits
  let value := if negative then -n else n
  let fits := minInt ≤ value ∧ value ≤ maxInt ∧ ¬(negative ∧ n = 0)
  if fraction?.isNone ∧ exponent?.isNone ∧ fits then some (.int value)
  else (floatOf? negative digits (fraction?.getD []) (exponent?.getD 0)).map .float

end MeteringAlarms.Number
