/-
What the fixed-point operations compute, on each of the three scales.

A product and a quotient are the exact rational ones, rounded to the nearest integer with ties upwards, and the only
thing that stands in their way is a numerator that does not fit. A factor of at least one loses nothing: dividing by it
takes back the multiplication. A divisor of at most one loses nothing either: multiplying by it takes back the division.
The three pairs of operations are instances of one pair, so `ScaleLaws` is proved once.

Results:
- `halfUp_eq_round`: rounding half up is the rounding of the exact ratio, for odd divisors too;
- `mulHalfUp_eq_error`, `divHalfUp_eq_error`: when the shared operations are refused, and for what cause;
- `scaleLaws`: the laws of the shared operations;
- `rayToWad_wadToRay`: nine more decimals can be taken away again;
- `fixedPoint_laws`: the laws of the named operations.
-/
import Mathlib.Algebra.Order.Round
import Mathlib.Data.Rat.Floor
import Lending.Proofs.Causes
import Lending.Proofs.WeightedAverage

namespace Lending

open UInt256

/-! ## The exact result -/

/-- `halfUp` is the integer nearest to the exact ratio, and a tie goes up whether or not the divisor is even -/
theorem halfUp_eq_round (n : Nat) {d : Nat} (hd : 0 < d) : (halfUp n d : ℤ) = round ((n : ℚ) / d) := by
  have hpos : (0 : ℚ) < d := Nat.cast_pos.2 hd
  have hlower : (2 * n : ℚ) < 2 * (halfUp n d * d) + d := by exact_mod_cast lt_two_mul_halfUp n hd
  rw [round_eq, eq_comm, Int.floor_eq_iff, Int.cast_natCast]
  refine ⟨halfUp_upper n hd, ?_⟩
  rw [div_add' _ _ _ hpos.ne', div_lt_iff₀ hpos]
  linarith

/-! ## Refusals -/

section Operations

variable {one : Nat} {a c : UInt256} {f : Fault}

theorem UInt256.mulHalfUp_eq_error {b : Nat} :
    mulHalfUp one a b = .error f ↔ Nat.pow 2 256 ≤ a.toNat * b + one / 2 ∧ f = .overflow := by
  unfold mulHalfUp
  rw [bind_eq_error, fit_eq_error]
  exact ⟨fun h => h.resolve_right nofun, .inl⟩

theorem UInt256.divHalfUp_eq_error {b : Nat} :
    divHalfUp one a b = .error f ↔
      (b = 0 ∧ f = .divisionByZero) ∨ (b ≠ 0 ∧ Nat.pow 2 256 ≤ a.toNat * one + b / 2 ∧ f = .overflow) := by
  unfold divHalfUp
  rw [bind_eq_error, require_eq_error, not_not]
  refine or_congr (and_congr_right fun _ => eq_comm) ⟨?_, ?_⟩
  · rintro ⟨_, hb, h⟩
    rw [bind_eq_error, fit_eq_error] at h
    exact ⟨require_eq_ok.1 hb, h.resolve_right nofun⟩
  · rintro ⟨hb, hlarge⟩
    exact ⟨(), require_eq_ok.2 hb, bind_eq_error.2 (.inl (fit_eq_error.2 hlarge))⟩

/-! ## The laws of a scale -/

/-- the laws of a product `mul` and a quotient `div` on the scale whose one is `one`, where an operand `b` stands for
the number `size b` -/
structure ScaleLaws {β : Type} (one : Nat) (size : β → Nat) (mul div : UInt256 → β → Checked UInt256) : Prop where
  mul_eq_ok : ∀ a b c, mul a b = .ok c ↔
    a.toNat * size b + one / 2 < Nat.pow 2 256 ∧ (c.toNat : ℤ) = round ((a.toNat * size b : ℚ) / one)
  mul_eq_error : ∀ a b f, mul a b = .error f ↔
    Nat.pow 2 256 ≤ a.toNat * size b + one / 2 ∧ f = .overflow
  div_eq_ok : ∀ a b c, div a b = .ok c ↔
    size b ≠ 0 ∧ a.toNat * one + size b / 2 < Nat.pow 2 256 ∧ (c.toNat : ℤ) = round ((a.toNat * one : ℚ) / size b)
  div_eq_error : ∀ a b f, div a b = .error f ↔
    (size b = 0 ∧ f = .divisionByZero) ∨
      (size b ≠ 0 ∧ Nat.pow 2 256 ≤ a.toNat * one + size b / 2 ∧ f = .overflow)
  /-- a division by at least one takes back the multiplication -/
  div_mul : ∀ a b c d, one ≤ size b → mul a b = .ok c → div c b = .ok d → d = a
  /-- a multiplication by at most one takes back the division -/
  mul_div : ∀ a b c d, size b ≤ one → div a b = .ok c → mul c b = .ok d → d = a
  mul_mono : ∀ a a' b c c', a ≤ a' → mul a b = .ok c → mul a' b = .ok c' → c ≤ c'
  div_mono : ∀ a a' b c c', a ≤ a' → div a b = .ok c → div a' b = .ok c' → c ≤ c'
  div_anti : ∀ a b b' c c', size b ≤ size b' → div a b = .ok c → div a b' = .ok c' → c' ≤ c

theorem divisor_pos {b : Nat} (h : divHalfUp one a b = .ok c) : 0 < b := Nat.pos_of_ne_zero (divHalfUp_eq_ok.1 h).1

theorem mulHalfUp_eq_round {b : Nat} (ho : 0 < one) :
    mulHalfUp one a b = .ok c ↔
      a.toNat * b + one / 2 < Nat.pow 2 256 ∧ (c.toNat : ℤ) = round ((a.toNat * b : ℚ) / one) := by
  rw [mulHalfUp_eq_ok, ← Nat.cast_mul, ← halfUp_eq_round _ ho, Nat.cast_inj, halfUp]

theorem divHalfUp_eq_round {b : Nat} :
    divHalfUp one a b = .ok c ↔
      b ≠ 0 ∧ a.toNat * one + b / 2 < Nat.pow 2 256 ∧ (c.toNat : ℤ) = round ((a.toNat * one : ℚ) / b) := by
  rw [divHalfUp_eq_ok]
  refine and_congr_right fun hb => ?_
  rw [← Nat.cast_mul, ← halfUp_eq_round _ (Nat.pos_of_ne_zero hb), Nat.cast_inj, halfUp]

/-- the two shared operations obey the laws, whatever the second operand is written as -/
theorem scaleLaws {β : Type} (size : β → Nat) (ho : 0 < one) :
    ScaleLaws one size (fun a b => mulHalfUp one a (size b)) fun a b => divHalfUp one a (size b) where
  mul_eq_ok _ _ _ := mulHalfUp_eq_round ho
  mul_eq_error _ _ _ := mulHalfUp_eq_error
  div_eq_ok _ _ _ := divHalfUp_eq_round
  div_eq_error _ _ _ := divHalfUp_eq_error
  div_mul a b c d hb hc hd := by
    apply UInt256.ext
    rw [toNat_divHalfUp hd, toNat_mulHalfUp hc, halfUp_mul_cancel ho _ hb]
  mul_div a b c d hb hc hd := by
    apply UInt256.ext
    -- the same cancellation with the scale and the operand in each other's places
    rw [toNat_mulHalfUp hd, toNat_divHalfUp hc, halfUp_mul_cancel (divisor_pos hc) _ hb]
  mul_mono a a' b c c' ha hc hc' := by
    rw [le_iff, toNat_mulHalfUp hc, toNat_mulHalfUp hc']
    exact halfUp_mono (Nat.mul_le_mul_right _ ha) _
  div_mono a a' b c c' ha hc hc' := by
    rw [le_iff, toNat_divHalfUp hc, toNat_divHalfUp hc']
    exact halfUp_mono (Nat.mul_le_mul_right _ ha) _
  div_anti a b b' c c' hb hc hc' := by
    rw [le_iff, toNat_divHalfUp hc, toNat_divHalfUp hc']
    exact halfUp_anti _ (divisor_pos hc) hb

end Operations

/-! ## The three scales -/

theorem rayToWad_wadToRay {a b : UInt256} (h : a.wadToRay = .ok b) : b.rayToWad = a := by
  apply UInt256.ext
  show halfUp b.toNat raysPerWad = a.toNat
  rw [toNat_wadToRay h, halfUp_mul_one raysPerWad_pos]

/-- **Wads, rays and basis points obey the laws of their scale, and a wad survives being written as a ray.** -/
theorem fixedPoint_laws :
    ScaleLaws wad toNat wadMul wadDiv ∧ ScaleLaws ray toNat rayMul rayDiv ∧
      ScaleLaws hundredPercent id percentMul percentDiv ∧ ∀ a b : UInt256, a.wadToRay = .ok b → b.rayToWad = a :=
  ⟨scaleLaws toNat wad_pos, scaleLaws toNat ray_pos, scaleLaws id (by decide), fun _ _ => rayToWad_wadToRay⟩

/-- two thirds as a ray and back, through an odd divisor; 105% of 1001 and back; and five wads as rays and back -/
theorem fixedPoint_laws_sample :
    (∃ c, rayDiv 2 3 = .ok c ∧ (c.toNat : ℤ) = round ((2 * ray : ℚ) / 3) ∧ ∃ d, c.rayMul 3 = .ok d ∧ d = 2) ∧
      (∃ c, percentMul 1001 10500 = .ok c ∧ ∃ d, c.percentDiv 10500 = .ok d ∧ d = 1001) ∧
      ∃ b, wadToRay 5 = .ok b ∧ b.rayToWad = 5 := by
  obtain ⟨_, rays, shares, conversion⟩ := fixedPoint_laws
  refine ⟨?_, ?_, ?_⟩
  · obtain ⟨c, hc, d, hd, -⟩ : ∃ c, rayDiv 2 3 = .ok c ∧ ∃ d, c.rayMul 3 = .ok d ∧ True := by decide +kernel
    exact ⟨c, hc, ((rays.div_eq_ok 2 3 c).1 hc).2.2, d, hd, rays.mul_div 2 3 c d (by decide) hc hd⟩
  · obtain ⟨c, hc, d, hd, -⟩ : ∃ c, percentMul 1001 10500 = .ok c ∧ ∃ d, c.percentDiv 10500 = .ok d ∧ True := by
      decide +kernel
    exact ⟨c, hc, d, hd, shares.div_mul 1001 10500 c d (by decide) hc hd⟩
  · obtain ⟨b, hb, -⟩ : ∃ b, wadToRay 5 = .ok b ∧ True := by decide +kernel
    exact ⟨b, hb, conversion 5 b hb⟩

end Lending
