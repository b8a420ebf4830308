/-
How far a rounded result lies from the exact one, and that it is there when the numbers are small.

The exact results are rational numbers. Every product, quotient and share is off by at most one half, so an error
budget for several operations is a sum of halves, each carried through the operations after it.

Results:
- `halfUp_upper`, `halfUp_lower`, `abs_halfUp_sub_div_le`, `abs_halfUp_sub_le`: rounding moves a ratio by at most one
  half either way;
- `exists_rayMul_le`, `exists_rayDiv`, `exists_percentMul`: an operation goes through when its numerator is at most
  `10 ^ 76`.
-/
import Mathlib.Algebra.Order.Field.Rat
import Mathlib.Algebra.Order.Ring.Abs
import Mathlib.Tactic.Linarith
import Mathlib.Tactic.Positivity
import Mathlib.Tactic.Ring
import Lending.Proofs.Rounding

namespace Lending

/-! ## Half a unit -/

theorem halfUp_upper (n : Nat) {d : Nat} (hd : 0 < d) : (halfUp n d : ℚ) ≤ n / d + 1 / 2 := by
  have hpos : (0 : ℚ) < d := Nat.cast_pos.2 hd
  have h : (2 * (halfUp n d * d) : ℚ) ≤ 2 * n + d := by exact_mod_cast two_mul_halfUp_le n hd
  rw [← sub_le_iff_le_add, le_div_iff₀ hpos]
  linarith

theorem halfUp_lower (n : Nat) {d : Nat} (hd : 0 < d) : (n / d - 1 / 2 : ℚ) ≤ halfUp n d := by
  have hpos : (0 : ℚ) < d := Nat.cast_pos.2 hd
  have h : (2 * n : ℚ) < 2 * (halfUp n d * d) + d := by exact_mod_cast lt_two_mul_halfUp n hd
  rw [sub_le_iff_le_add, div_le_iff₀ hpos]
  linarith

theorem abs_halfUp_sub_div_le (n : Nat) {d : Nat} (hd : 0 < d) : |(halfUp n d : ℚ) - n / d| ≤ 1 / 2 := by
  have hupper := halfUp_upper n hd
  have hlower := halfUp_lower n hd
  rw [abs_le]
  constructor <;> linarith

/-- cleared of the denominator, rounding moves twice a number by at most the divisor -/
theorem abs_halfUp_sub_le (n : Nat) {d : Nat} (hd : 0 < d) : |2 * (halfUp n d * d : ℤ) - 2 * n| ≤ d := by
  have hupper : (2 * (halfUp n d * d) : ℤ) ≤ 2 * n + d := by exact_mod_cast two_mul_halfUp_le n hd
  have hlower : (2 * n : ℤ) < 2 * (halfUp n d * d) + d := by exact_mod_cast lt_two_mul_halfUp n hd
  rw [abs_le]
  constructor <;> linarith

namespace UInt256

variable {a b c : UInt256} {share : Nat}

theorem rayMul_upper (h : a.rayMul b = .ok c) : (c.toNat : ℚ) ≤ a.toNat * b.toNat / ray + 1 / 2 := by
  rw [toNat_rayMul h]
  exact_mod_cast halfUp_upper (a.toNat * b.toNat) ray_pos

theorem rayMul_lower (h : a.rayMul b = .ok c) : (a.toNat * b.toNat / ray - 1 / 2 : ℚ) ≤ c.toNat := by
  rw [toNat_rayMul h]
  exact_mod_cast halfUp_lower (a.toNat * b.toNat) ray_pos

theorem rayDiv_upper (h : a.rayDiv b = .ok c) : (c.toNat : ℚ) ≤ a.toNat * ray / b.toNat + 1 / 2 := by
  have hb : 0 < b.toNat := Nat.pos_of_ne_zero (divHalfUp_eq_ok.1 h).1
  rw [toNat_rayDiv h]
  exact_mod_cast halfUp_upper (a.toNat * ray) hb

theorem percentMul_upper (h : a.percentMul share = .ok c) :
    (c.toNat : ℚ) ≤ a.toNat * share / hundredPercent + 1 / 2 := by
  rw [toNat_percentMul h]
  exact_mod_cast halfUp_upper (a.toNat * share) (by decide : 0 < hundredPercent)

/-! ## Small numbers -/

theorem exists_fit {n : Nat} (h : n ≤ Nat.pow 10 76) : ∃ c, fit n = .ok c ∧ c.toNat = n :=
  ⟨⟨n, Nat.lt_of_le_of_lt h (by decide)⟩, fit_eq_ok.2 rfl, rfl⟩

theorem exists_add (h : a.toNat + b.toNat ≤ Nat.pow 10 76) : ∃ c, a.add b = .ok c ∧ c.toNat = a.toNat + b.toNat :=
  exists_fit h

theorem exists_mulHalfUp {one m : Nat} (ho : one ≤ Nat.pow 10 76) (h : a.toNat * m ≤ Nat.pow 10 76) :
    ∃ c, mulHalfUp one a m = .ok c := by
  have hfits : a.toNat * m + one / 2 < Nat.pow 2 256 :=
    calc a.toNat * m + one / 2 ≤ Nat.pow 10 76 + Nat.pow 10 76 / 2 := Nat.add_le_add h (Nat.div_le_div_right ho)
      _ < Nat.pow 2 256 := by decide
  exact ⟨⟨_, Nat.lt_of_le_of_lt (Nat.div_le_self _ _) hfits⟩, mulHalfUp_eq_ok.2 ⟨hfits, rfl⟩⟩

theorem exists_rayMul (h : a.toNat * b.toNat ≤ Nat.pow 10 76) : ∃ c, a.rayMul b = .ok c :=
  exists_mulHalfUp (by decide) h

/-- a number of at most `k` grows at most `m` times when it is multiplied by at most `m` -/
theorem exists_rayMul_le {k m : Nat} (ha : a.toNat ≤ k) (hb : b.toNat ≤ m * ray) (h : k * (m * ray) ≤ Nat.pow 10 76) :
    ∃ c, a.rayMul b = .ok c ∧ c.toNat ≤ k * m := by
  have hproduct : a.toNat * b.toNat ≤ k * (m * ray) := Nat.mul_le_mul ha hb
  obtain ⟨c, hc⟩ := exists_rayMul (hproduct.trans h)
  refine ⟨c, hc, ?_⟩
  rw [toNat_rayMul hc]
  refine halfUp_le ray_pos ?_
  have := ray_pos
  rw [Nat.mul_assoc k m ray]
  omega

theorem exists_percentMul (h : a.toNat * share ≤ Nat.pow 10 76) : ∃ c, a.percentMul share = .ok c :=
  exists_mulHalfUp (by decide) h

theorem exists_rayDiv (hb : 0 < b.toNat) (hle : b.toNat ≤ Nat.pow 10 76) (h : a.toNat * ray ≤ Nat.pow 10 76) :
    ∃ c, a.rayDiv b = .ok c := by
  have hfits : a.toNat * ray + b.toNat / 2 < Nat.pow 2 256 :=
    calc a.toNat * ray + b.toNat / 2 ≤ Nat.pow 10 76 + Nat.pow 10 76 / 2 := Nat.add_le_add h (Nat.div_le_div_right hle)
      _ < Nat.pow 2 256 := by decide
  exact ⟨⟨_, Nat.lt_of_le_of_lt (Nat.div_le_self _ _) hfits⟩, divHalfUp_eq_ok.2 ⟨hb.ne', hfits, rfl⟩⟩

end UInt256

end Lending
