/-!
# Digits and numbers

Decimal and hexadecimal digits as characters, the number that a run of digits denotes, and the
digits of a number, padded on the left where a fixed width is wanted.
-/

namespace MeteringAlarms.Digits

def decimalValue (c : Char) : Nat :=
  c.toNat - '0'.toNat

/-- The value of a digit in bases up to sixteen; letters of either case count from ten. -/
def value? (c : Char) : Option Nat :=
  if '0' ≤ c ∧ c ≤ '9' then some (c.toNat - '0'.toNat)
  else if 'a' ≤ c ∧ c ≤ 'f' then some (c.toNat - 'a'.toNat + 10)
  else if 'A' ≤ c ∧ c ≤ 'F' then some (c.toNat - 'A'.toNat + 10)
  else none

/-- The number written by a run of decimal digits, most significant first. -/
def ofDecimal (digits : List Char) : Nat :=
  digits.foldl (fun n c ↦ 10 * n + decimalValue c) 0

/-- The number written by a run of digits in the given base; `none` if a character is no digit. -/
def ofBase? (base : Nat) (digits : List Char) : Option Nat :=
  digits.foldlM (fun n c ↦ do
    let d ← value? c
    if d < base then some (base * n + d) else none) 0

def decimal (n : Nat) : List Char :=
  Nat.toDigits 10 n

/-- Decimal digits of `n`, filled up with zeros to at least `width` places. -/
def padded (width n : Nat) : List Char :=
  let digits := decimal n
  List.replicate (width - digits.length) '0' ++ digits

/-- Lower-case hexadecimal digits of `n`, filled up with zeros to at least `width` places. -/
def hex (width n : Nat) : List Char :=
  let digits := Nat.toDigits 16 n
  List.replicate (width - digits.length) '0' ++ digits

end MeteringAlarms.Digits
