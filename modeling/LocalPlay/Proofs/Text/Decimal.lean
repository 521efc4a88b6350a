import LocalPlay.Text.Decimal
import Mathlib.Algebra.Order.Ring.Nat

set_option autoImplicit false

/-! # The shape of written numerals

A written numeral has no zero in front of other digits and takes no more digits than its number asks
for. A property of its characters is settled by a look at the ten digits. -/

namespace LocalPlay.Text

/-- What holds of the ten digits holds of every character of a written numeral. -/
theorem forall_mem_digits {P : Char → Prop} (holds : ∀ d : Fin 10, P (digitChar d)) (n : Nat) :
    ∀ c ∈ digits n, P c := by
  intro c mem
  obtain ⟨d, small, rfl⟩ := decimalDigit?_of_mem_digits mem
  exact holds ⟨d, small⟩

/-- Only the numeral of zero begins with a zero. -/
theorem head?_digits_ne {n : Nat} (pos : 0 < n) : (digits n).head? ≠ some '0' := by
  fun_induction digits n with
  | case1 n small =>
    have nonzero : ∀ d : Fin 10, 0 < d.val → [digitChar d].head? ≠ some '0' := by decide
    exact nonzero ⟨n, small⟩ pos
  | case2 n large ih =>
    have front := ih (Nat.div_pos (Nat.not_lt.1 large) (by decide))
    cases written : digits (n / 10) with
    | nil => exact absurd written (digits_ne_nil _)
    | cons c cs =>
      rw [written] at front
      exact front

/-- A numeral of several digits does not begin with a zero. -/
theorem no_leading_zero (n : Nat) :
    ¬ (1 < (digits n).length ∧ (digits n).head? = some '0') := by
  rintro ⟨several, zero⟩
  rcases Nat.eq_zero_or_pos n with rfl | pos
  · exact absurd several (by decide +kernel)
  · exact head?_digits_ne pos zero

theorem length_digits_le {n k : Nat} (small : n < 10 ^ (k + 1)) : (digits n).length ≤ k + 1 := by
  fun_induction digits n generalizing k with
  | case1 n digit => exact Nat.succ_le_succ (Nat.zero_le k)
  | case2 n large ih =>
    cases k with
    | zero => exact absurd small (by simpa using large)
    | succ k =>
      have front : n / 10 < 10 ^ (k + 1) := by
        rw [pow_succ] at small
        omega
      have short := ih front
      rw [List.length_append, List.length_singleton]
      omega

end LocalPlay.Text
