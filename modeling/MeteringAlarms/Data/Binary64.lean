import MeteringAlarms.Data.Digits

/-!
# Finite double-precision numbers

A finite double is a sign, a biased exponent below 2047 and a 52-bit fraction, so two doubles are
equal exactly when they are the same number with the same sign of zero. Ratios of natural numbers
are rounded to the nearest double in exact arithmetic, ties to the even significand; decimals,
products and quotients are rounded through them. Printing chooses the fewest significant digits that
are nearer to the number than to any other double, and among those the nearest.
-/

namespace MeteringAlarms

structure Binary64 where
  negative : Bool
  exponent : Fin 2047
  fraction : Fin 4503599627370496
  deriving DecidableEq

namespace Binary64

def zero (negative : Bool) : Binary64 := ⟨negative, 0, 0⟩

def isZero (x : Binary64) : Bool :=
  x.exponent == 0 && x.fraction == 0

/-- The integer `m` of the magnitude `m * 2 ^ scale`. -/
def significand (x : Binary64) : Nat :=
  if x.exponent = 0 then x.fraction.val else 4503599627370496 + x.fraction.val

/-- The power of two that a unit of the significand stands for. -/
def scale (x : Binary64) : Int :=
  if x.exponent = 0 then -1074 else (x.exponent.val : Int) - 1075

/-- The double of magnitude `m * 2 ^ e`, for a significand of full width or the least exponent. -/
def ofParts? (negative : Bool) (m : Nat) (e : Int) : Option Binary64 :=
  if h : m < 4503599627370496 then
    some ⟨negative, 0, ⟨m, h⟩⟩
  else if h : m - 4503599627370496 < 4503599627370496 then
    if h' : (e + 1075).toNat < 2047 then
      some ⟨negative, ⟨(e + 1075).toNat, h'⟩, ⟨m - 4503599627370496, h⟩⟩
    else none
  else none

/-- Numerator and denominator of `num / den / 2 ^ e`. -/
def scaled (num den : Nat) (e : Int) : Nat × Nat :=
  if 0 ≤ e then (num, den * Nat.pow 2 e.toNat) else (num * Nat.pow 2 (-e).toNat, den)

def roundHalfEven (num den : Nat) : Nat :=
  let q := num / den
  let twice := 2 * (num % den)
  if den < twice ∨ (den = twice ∧ q % 2 = 1) then q + 1 else q

/-- The double nearest to `num / den`; `none` beyond the greatest finite double. -/
def ofRatio? (negative : Bool) (num den : Nat) : Option Binary64 :=
  if num = 0 then some (zero negative)
  else
    let low := max ((num.log2 : Int) - den.log2 - 53) (-1074)
    let (n, d) := scaled num den low
    let e := if n / d < 9007199254740992 then low else low + 1
    let (n, d) := scaled num den e
    let q := roundHalfEven n d
    if q = 9007199254740992 then ofParts? negative 4503599627370496 (e + 1)
    else ofParts? negative q e

/--
The double nearest to `digits * 10 ^ exponent`. Exponents far outside the format's range are settled
before any power of ten is formed, so the cost does not depend on the size of the exponent.
-/
def ofDecimal? (negative : Bool) (digits : Nat) (exponent : Int) : Option Binary64 :=
  if digits = 0 then some (zero negative)
  else if 400 < exponent then none
  else if exponent < -400 - (digits.log2 : Int) then some (zero negative)
  else if 0 ≤ exponent then ofRatio? negative (digits * Nat.pow 10 exponent.toNat) 1
  else ofRatio? negative digits (Nat.pow 10 (-exponent).toNat)

/-! ## Rounded arithmetic -/

/-- Numerator and denominator of the magnitude. -/
def ratio (x : Binary64) : Nat × Nat :=
  scaled x.significand 1 (-x.scale)

/-- The double nearest to a product; `none` beyond the greatest finite double. -/
def product? (x y : Binary64) : Option Binary64 :=
  let (a, b) := x.ratio
  let (c, d) := y.ratio
  ofRatio? (x.negative != y.negative) (a * c) (b * d)

/-- The double nearest to a quotient; the divisor is not zero. -/
def quotient? (x y : Binary64) : Option Binary64 :=
  let (a, b) := x.ratio
  let (c, d) := y.ratio
  ofRatio? (x.negative != y.negative) (a * d) (b * c)

/-- The double nearest to a power of ten. -/
def powerOfTen? (k : Nat) : Option Binary64 :=
  if 308 < k then none else ofRatio? false (Nat.pow 10 k) 1

/--
A double times a power of ten, by one multiplication or division. The least powers take a division
by `1e308` first, and nothing is left of a number below them.
-/
def shift? (x : Binary64) (exponent : Int) : Option Binary64 :=
  if x.isZero then some x
  else if 0 ≤ exponent then powerOfTen? exponent.toNat >>= x.product?
  else if -308 ≤ exponent then powerOfTen? (-exponent).toNat >>= x.quotient?
  else if -616 ≤ exponent then do
    let y ← powerOfTen? 308 >>= x.quotient?
    powerOfTen? (-exponent - 308).toNat >>= y.quotient?
  else some (zero x.negative)

/-! ## Shortest digits -/

/-- Numerator and denominator of `num / den / 10 ^ e`. -/
def scaledDecimal (num den : Nat) (e : Int) : Nat × Nat :=
  if 0 ≤ e then (num, den * Nat.pow 10 e.toNat) else (num * Nat.pow 10 (-e).toNat, den)

/--
The reals that round to a double: with four times the significand `m` as the value, the ends lie two
quarters away, one quarter below at a power of two, and belong to it exactly when `m` is even.
-/
structure Neighbourhood where
  lower : Nat
  value : Nat
  upper : Nat
  closed : Bool
  /-- All three are counted in units of `2 ^ unit`. -/
  unit : Int

def neighbourhood (x : Binary64) : Neighbourhood where
  lower := 4 * x.significand - if x.fraction = 0 ∧ 1 < x.exponent.val then 1 else 2
  value := 4 * x.significand
  upper := 4 * x.significand + 2
  closed := x.significand % 2 == 0
  unit := x.scale - 2

/-- The position of the decimal point: the least `k` in reach with `value < 10 ^ k`. -/
def Neighbourhood.pointPosition (near : Neighbourhood) : Int :=
  let (num, den) := scaled near.value 1 (-near.unit)
  let start := ((num.log2 : Int) - den.log2 - 1) * 1233 / 4096 - 1
  let below (k : Int) : Bool :=
    let (n, d) := scaledDecimal num den k
    n < d
  ((List.range 6).map fun i : Nat ↦ start + (i : Int)).find? below |>.getD (start + 6)

/-- The number of `count` digits on the decimal grid that rounds back, if there is one. -/
def Neighbourhood.onGrid? (near : Neighbourhood) (grid : Int) : Option Nat :=
  let (num, den) := scaled near.value 1 (-near.unit)
  let (n, d) := scaledDecimal num den grid
  -- In these units the number is `n / d` and a quarter of its unit is `n / (d * value)`.
  let inside (digits : Nat) : Bool :=
    let there := digits * d * near.value
    let low := n * near.lower
    let high := n * near.upper
    if near.closed then low ≤ there ∧ there ≤ high else low < there ∧ there < high
  let down := n / d
  let up := down + 1
  match inside down, inside up with
  | true, true => some (if 2 * (n % d) < d ∨ (2 * (n % d) = d ∧ down % 2 = 0) then down else up)
  | true, false => some down
  | false, true => some up
  | false, false => none

/-- Drops trailing zeros, counting them into the exponent. -/
def trimZeros : (fuel : Nat) → Nat → Int → Nat × Int
  | 0, digits, exponent => (digits, exponent)
  | fuel + 1, digits, exponent =>
    if digits % 10 = 0 ∧ digits ≠ 0 then trimZeros fuel (digits / 10) (exponent + 1)
    else (digits, exponent)

/-- The fewest digits that read back and their power of ten: the magnitude is `digits * 10 ^ e`. -/
def shortest (x : Binary64) : Nat × Int :=
  if x.isZero then (0, 0)
  else
    let near := x.neighbourhood
    let point := near.pointPosition
    let hit := (List.range 17).findSome? fun i ↦
      let grid := point - (i + 1 : Nat)
      (near.onGrid? grid).map fun digits ↦ (digits, grid)
    match hit with
    | some (digits, grid) => trimZeros 20 digits grid
    | none => (0, 0)

/-- The written form: positional from `1e-5` up to below `1e16`, else scientific with a sign. -/
def toChars (x : Binary64) : List Char :=
  let sign := if x.negative then ['-'] else []
  let (digits, exponent) := x.shortest
  if digits = 0 then sign ++ ['0', '.', '0']
  else
    let ds := Digits.decimal digits
    let point : Int := ds.length + exponent
    let body :=
      if -5 < point ∧ point ≤ 16 then
        if point ≤ 0 then ['0', '.'] ++ List.replicate (-point).toNat '0' ++ ds
        else if 0 ≤ exponent then ds ++ List.replicate exponent.toNat '0' ++ ['.', '0']
        else ds.take point.toNat ++ '.' :: ds.drop point.toNat
      else
        let power := point - 1
        let mantissa := match ds with
          | d :: e :: rest => d :: '.' :: e :: rest
          | short => short
        mantissa ++ 'e' :: (if power < 0 then '-' else '+') :: Digits.decimal power.natAbs
    sign ++ body

end Binary64

end MeteringAlarms
