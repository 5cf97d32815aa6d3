import Mathlib.Data.Nat.Digits.Defs
import MeteringAlarms.Data.Digits

/-!
# Digits that are read again

A number is written in decimal digits, and only zero with a zero in front.  Code points below
`0x20` are written as four hexadecimal digits, which denote them.
-/

namespace MeteringAlarms.Digits

theorem isDigit_of_mem_decimal {n : Nat} {c : Char} (h : c ∈ decimal n) : c.isDigit = true :=
  Nat.isDigit_of_mem_toDigits (by decide) (by decide) h

/-- No number but zero is written with a zero in front. -/
theorem exists_decimal_eq_cons {n : Nat} (hn : 0 < n) :
    ∃ c cs, decimal n = c :: cs ∧ c ≠ '0' := by
  induction n using Nat.strong_induction_on with
  | _ n ih =>
    rw [decimal, Nat.toDigits_eq_if (by decide)]
    split
    · refine ⟨_, [], rfl, ?_⟩
      rw [Ne, Nat.digitChar_eq_zero]
      omega
    · obtain ⟨c, cs, hcs, hc⟩ := ih (n / 10) (by omega) (by omega)
      rw [decimal] at hcs
      rw [hcs, List.cons_append]
      exact ⟨c, _, rfl, hc⟩

/-- A code point below `0x20` is written with two zeros in front. -/
theorem hex_four : ∀ n < 0x20,
    hex 4 n = ['0', '0', Nat.digitChar (n / 16), Nat.digitChar (n % 16)] := by
  decide

theorem ofBase?_hex_four : ∀ n < 0x20,
    ofBase? 16 ['0', '0', Nat.digitChar (n / 16), Nat.digitChar (n % 16)] = some n := by
  decide

end MeteringAlarms.Digits
