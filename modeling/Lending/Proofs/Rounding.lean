/-
Rounding half up, on natural numbers, and what follows for the fixed-point operations.

`halfUp n d` is the integer nearest to `n / d`, a tie upwards. Every product and quotient of two rays, and every share
of an amount, is one. `le_halfUp_iff` says which numbers lie below it; nothing else is used of rounding.

Results:
- `halfUp_scale`: scaling both sides of a ratio changes nothing;
- `le_halfUp_mul`, `halfUp_mul_le`, `halfUp_div_le`: multiplying by a factor of at least one never shrinks a number, and
  taking a share of at most one, or dividing by at least one, never enlarges it;
- `halfUp_part_le`: an amount strictly below a balance stands for no more scaled balance than there is;
- `halfUp_two_parts_le`: so do two amounts that are scaled apart, as long as they stay strictly below it together;
- `halfUp_whole_le`, `halfUp_mul_cancel`: the whole balance stands for no more than itself, and exactly for itself.
-/
import Mathlib.Tactic.Linarith
import Mathlib.Tactic.Ring
import Lending.FixedPoint

namespace Lending

/-- `n / d` rounded to the nearest integer, a tie upwards -/
def halfUp (n d : Nat) : Nat := (n + d / 2) / d

/-! ## Bounds -/

theorem le_halfUp_iff {n d k : Nat} (hd : 0 < d) : k ≤ halfUp n d ↔ 2 * (k * d) ≤ 2 * n + d := by
  unfold halfUp
  rw [Nat.le_div_iff_mul_le hd]
  omega

theorem halfUp_le {n d k : Nat} (hd : 0 < d) (h : 2 * n < 2 * (k * d) + d) : halfUp n d ≤ k := by
  by_contra hk
  have := (le_halfUp_iff hd).1 (Nat.lt_of_not_le hk)
  linarith [Nat.succ_mul k d]

theorem halfUp_zero {d : Nat} (hd : 0 < d) : halfUp 0 d = 0 := Nat.le_zero.1 (halfUp_le hd (by omega))

theorem two_mul_halfUp_le (n : Nat) {d : Nat} (hd : 0 < d) : 2 * (halfUp n d * d) ≤ 2 * n + d :=
  (le_halfUp_iff hd).1 le_rfl

theorem lt_two_mul_halfUp (n : Nat) {d : Nat} (hd : 0 < d) : 2 * n < 2 * (halfUp n d * d) + d := by
  have h : 2 * n + d < 2 * ((halfUp n d + 1) * d) :=
    Nat.lt_of_not_le fun hle => absurd ((le_halfUp_iff hd).2 hle) (Nat.not_succ_le_self _)
  rw [Nat.add_mul, Nat.one_mul] at h
  omega

/-! ## Monotonicity -/

theorem halfUp_mono {n m : Nat} (h : n ≤ m) (d : Nat) : halfUp n d ≤ halfUp m d :=
  Nat.div_le_div_right (Nat.add_le_add_right h _)

/-- a larger divisor never gives more -/
theorem halfUp_anti (n : Nat) {d e : Nat} (hd : 0 < d) (h : d ≤ e) : halfUp n e ≤ halfUp n d := by
  have hb := two_mul_halfUp_le n (Nat.lt_of_lt_of_le hd h)
  rw [le_halfUp_iff hd]
  generalize halfUp n e = k at *
  rcases Nat.eq_zero_or_pos k with rfl | hk
  · omega
  · obtain ⟨j, rfl⟩ : ∃ j, k = j + 1 := ⟨k - 1, by omega⟩
    have hj : j * d ≤ j * e := Nat.mul_le_mul_left j h
    linarith

/-- a ratio is rounded alike on every scale -/
theorem halfUp_scale (n : Nat) {d k : Nat} (hd : 0 < d) (hk : 0 < k) : halfUp (n * k) (d * k) = halfUp n d := by
  refine eq_of_forall_le_iff fun j => ?_
  have hleft : 2 * (j * (d * k)) = 2 * (j * d) * k := by ring
  have hright : 2 * (n * k) + d * k = (2 * n + d) * k := by ring
  rw [le_halfUp_iff (Nat.mul_pos hd hk), le_halfUp_iff hd, hleft, hright]
  exact Nat.mul_le_mul_right_iff hk

/-! ## Factors and shares around one -/

theorem le_halfUp_mul {one b : Nat} (ho : 0 < one) (a : Nat) (h : one ≤ b) : a ≤ halfUp (a * b) one := by
  have := Nat.mul_le_mul_left a h
  exact (le_halfUp_iff ho).2 (by omega)

theorem halfUp_mul_le {one b : Nat} (ho : 0 < one) (a : Nat) (h : b ≤ one) : halfUp (a * b) one ≤ a := by
  have := Nat.mul_le_mul_left a h
  exact halfUp_le ho (by omega)

theorem halfUp_div_le {one b : Nat} (hb : 0 < b) (a : Nat) (h : one ≤ b) : halfUp (a * one) b ≤ a := by
  have := Nat.mul_le_mul_left a h
  exact halfUp_le hb (by omega)

/-- a factor of exactly one rounds nothing -/
theorem halfUp_mul_one {one : Nat} (ho : 0 < one) (a : Nat) : halfUp (a * one) one = a :=
  Nat.le_antisymm (halfUp_mul_le ho a le_rfl) (le_halfUp_mul ho a le_rfl)

/-- the ratio of a part to its whole is at most one -/
theorem halfUp_ratio_le {part whole : Nat} (hw : 0 < whole) (one : Nat) (h : part ≤ whole) :
    halfUp (part * one) whole ≤ one := by
  have := Nat.mul_le_mul_right one h
  exact halfUp_le hw (by linarith)

/-! ## Scaled balances

`scaled` at an index of at least one is worth `halfUp (scaled * index) one`. -/

/-- two amounts that stay below a balance together, scaled apart, stand for no more than the balance -/
theorem halfUp_two_parts_le {one index scaled a b : Nat} (ho : 0 < one) (hi : one ≤ index)
    (h : a + b < halfUp (scaled * index) one) : halfUp (a * one) index + halfUp (b * one) index ≤ scaled := by
  have hpos : 0 < index := Nat.lt_of_lt_of_le ho hi
  have hw := (le_halfUp_iff ho).1 h
  have ha := two_mul_halfUp_le (a * one) hpos
  have hb := two_mul_halfUp_le (b * one) hpos
  generalize halfUp (a * one) index = p at *
  generalize halfUp (b * one) index = q at *
  by_contra hlt
  have hm : (scaled + 1) * index ≤ (p + q) * index := Nat.mul_le_mul_right index (by omega)
  rw [Nat.succ_eq_add_one] at hw
  linarith

/-- an amount below a balance stands for no more than the balance -/
theorem halfUp_part_le {one index scaled amount : Nat} (ho : 0 < one) (hi : one ≤ index)
    (h : amount < halfUp (scaled * index) one) : halfUp (amount * one) index ≤ scaled := by
  have := halfUp_two_parts_le (b := 0) ho hi h
  omega

/-- no more than a whole balance stands for no more than its scaled form -/
theorem halfUp_whole_le {one index scaled amount : Nat} (ho : 0 < one) (hi : one ≤ index)
    (h : amount ≤ halfUp (scaled * index) one) : halfUp (amount * one) index ≤ scaled := by
  have hw := (le_halfUp_iff ho).1 h
  refine halfUp_le (Nat.lt_of_lt_of_le ho hi) ?_
  -- at an index of exactly one nothing is rounded, so the tie that would add a unit cannot arise
  rcases Nat.eq_or_lt_of_le hi with rfl | hlt
  · rw [halfUp_mul_one ho] at h
    have := Nat.mul_le_mul_right one h
    omega
  · omega

/-- and it stands for exactly that, so dividing by a factor of at least one takes back the multiplication by it -/
theorem halfUp_mul_cancel {one index : Nat} (ho : 0 < one) (scaled : Nat) (hi : one ≤ index) :
    halfUp (halfUp (scaled * index) one * one) index = scaled := by
  refine Nat.le_antisymm (halfUp_whole_le ho hi le_rfl) ((le_halfUp_iff (Nat.lt_of_lt_of_le ho hi)).2 ?_)
  have := lt_two_mul_halfUp (scaled * index) ho
  omega

/-! ## The checked operations -/

namespace UInt256

theorem ray_pos : 0 < ray := by decide

theorem toNat_mulHalfUp {one b : Nat} {a c : UInt256} (h : mulHalfUp one a b = .ok c) :
    c.toNat = halfUp (a.toNat * b) one :=
  (mulHalfUp_eq_ok.1 h).2

theorem toNat_divHalfUp {one b : Nat} {a c : UInt256} (h : divHalfUp one a b = .ok c) :
    c.toNat = halfUp (a.toNat * one) b :=
  (divHalfUp_eq_ok.1 h).2.2

theorem toNat_rayMul {a b c : UInt256} (h : a.rayMul b = .ok c) : c.toNat = halfUp (a.toNat * b.toNat) ray :=
  toNat_mulHalfUp h

/-- at an index of at least one, what is scaled is no more than what it is worth -/
theorem le_of_rayMul {a index b : UInt256} (hi : ray ≤ index.toNat) (h : a.rayMul index = .ok b) :
    a.toNat ≤ b.toNat := by
  rw [toNat_rayMul h]
  exact le_halfUp_mul ray_pos _ hi

theorem toNat_rayDiv {a b c : UInt256} (h : a.rayDiv b = .ok c) : c.toNat = halfUp (a.toNat * ray) b.toNat :=
  toNat_divHalfUp h

theorem toNat_percentMul {a c : UInt256} {share : Nat} (h : a.percentMul share = .ok c) :
    c.toNat = halfUp (a.toNat * share) hundredPercent :=
  toNat_mulHalfUp h

theorem toNat_percentDiv {a c : UInt256} {share : Nat} (h : a.percentDiv share = .ok c) :
    c.toNat = halfUp (a.toNat * hundredPercent) share :=
  toNat_divHalfUp h

theorem zero_rayDiv {b : UInt256} (hb : b.toNat ≠ 0) : (0 : UInt256).rayDiv b = .ok 0 := by
  have hlt : 0 * ray + b.toNat / 2 < Nat.pow 2 256 := by
    have := b.toNat_lt
    omega
  exact divHalfUp_eq_ok.2 ⟨hb, hlt, (halfUp_zero (Nat.pos_of_ne_zero hb)).symm⟩

theorem zero_mulHalfUp {one : Nat} (ho : 0 < one) (hlt : one / 2 < Nat.pow 2 256) (b : Nat) :
    mulHalfUp one 0 b = .ok 0 := by
  refine mulHalfUp_eq_ok.2 ?_
  rw [toNat_zero, Nat.zero_mul, Nat.zero_add]
  exact ⟨hlt, (Nat.div_eq_of_lt (Nat.div_lt_self ho (by decide))).symm⟩

theorem zero_rayMul (b : UInt256) : (0 : UInt256).rayMul b = .ok 0 := zero_mulHalfUp ray_pos (by decide) b.toNat

theorem zero_percentMul (share : Nat) : (0 : UInt256).percentMul share = .ok 0 :=
  zero_mulHalfUp (by decide) (by decide) share

end UInt256

end Lending
