/-
Overflow is downward closed: what goes through with large numbers goes through with smaller ones.

`Within x y` compares two checked computations: if `y` returns a value then so does `x`, and it returns no more. A
sequence stays within another when its halves do, where the second half goes on from a smaller value
(`Within.bind`), so a formula that is built from sums and products alone is compared step by step. One evaluation at
the largest numbers of a range then shows that nothing in the range is refused.
-/
import Lending.Proofs.Causes

namespace Lending

open UInt256

/-- `x` goes through whenever `y` does, and returns no more -/
def Within (x y : Checked UInt256) : Prop := ∀ b, y = .ok b → ∃ a, x = .ok a ∧ a ≤ b

namespace Within

variable {x y : Checked UInt256} {a b : UInt256}

theorem le (h : Within x y) (hx : x = .ok a) (hy : y = .ok b) : a ≤ b := by
  obtain ⟨c, hc, hle⟩ := h b hy
  cases hx.symm.trans hc
  exact hle

/-- a sequence stays within another when both of its halves do, the second going on from no more -/
theorem bind {f g : UInt256 → Checked UInt256} (h : Within x y) (hf : ∀ a b, a ≤ b → Within (f a) (g b)) :
    Within (x >>= f) (y >>= g) := by
  intro c hc
  obtain ⟨b, hb, hc⟩ := bind_eq_ok.1 hc
  obtain ⟨a, ha, hab⟩ := h b hb
  obtain ⟨d, hd, hdc⟩ := hf a b hab c hc
  exact ⟨d, bind_eq_ok.2 ⟨a, ha, hd⟩, hdc⟩

end Within

/-! ## Arithmetic -/

namespace UInt256

variable {a a' b b' : UInt256}

theorem divNat_mono (h : a ≤ b) (n : Nat) : a.divNat n ≤ b.divNat n := Nat.div_le_div_right h

theorem within_fit {n m : Nat} (h : n ≤ m) : Within (fit n) (fit m) := by
  intro b hb
  rw [fit_eq_ok] at hb
  exact ⟨⟨n, Nat.lt_of_le_of_lt (hb ▸ h) b.toNat_lt⟩, fit_eq_ok.2 rfl, le_iff.2 (hb ▸ h)⟩

theorem within_mulHalfUp (one : Nat) {m n : Nat} (ha : a ≤ b) (hm : m ≤ n) :
    Within (mulHalfUp one a m) (mulHalfUp one b n) := by
  have hnumerator : a.toNat * m + one / 2 ≤ b.toNat * n + one / 2 := Nat.add_le_add_right (Nat.mul_le_mul ha hm) _
  refine (within_fit hnumerator).bind fun c d hcd e he => ?_
  cases he
  exact ⟨c.divNat one, rfl, divNat_mono hcd one⟩

theorem within_rayMul (ha : a ≤ a') (hb : b ≤ b') : Within (a.rayMul b) (a'.rayMul b') := within_mulHalfUp ray ha hb

end UInt256

end Lending
