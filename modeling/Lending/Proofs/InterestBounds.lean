/-
How much interest suppliers earn and borrowers owe in at most a year, up to rounding.

`simpleInterest` is the exact simple interest, as a part of the balance. The supply index grows by no more than that,
and the debt index by no less, because compound interest is at least simple interest. What suppliers earn is what
borrowers of variable debt pay, less the reserve factor, spread over the whole supply.

Results:
- `supplyIndexAt_le`, `debtIndexAt_ge`: the growth of the two indices, at rates of at most ten and over a year;
- `compoundedTerms_le`: the growth factor of compound interest stays below 300;
- `RateCurve.liquidityRate_le`: the interest of suppliers is at most that of borrowers.
All of them say in the same breath that nothing overflows.
-/
import Mathlib.Data.Nat.Cast.Order.Field
import Mathlib.Tactic.FieldSimp
import Mathlib.Tactic.GCongr
import Mathlib.Tactic.NormNum
import Lending.Proofs.Growth
import Lending.Proofs.SupplierEarnings

namespace Lending

open UInt256

/-! ## Simple interest -/

/-- the simple interest at `rate` over `n` seconds, as a part of the balance -/
def simpleInterest (rate : UInt256) (n : Nat) : ℚ := rate.toNat * n / (secondsPerYear * ray)

theorem simpleInterest_nonneg (rate : UInt256) (n : Nat) : 0 ≤ simpleInterest rate n := by
  unfold simpleInterest
  positivity

/-- a rate of at most `k` earns at most `k` in at most a year -/
theorem simpleInterest_le {rate : UInt256} {n k : Nat} (hr : rate.toNat ≤ k * ray) (hn : n ≤ secondsPerYear) :
    simpleInterest rate n ≤ k := by
  have hpos : (0 : ℚ) < secondsPerYear * ray := by norm_num [secondsPerYear, ray]
  have h : rate.toNat * n ≤ k * ray * secondsPerYear := Nat.mul_le_mul hr hn
  have h : (rate.toNat * n : ℚ) ≤ k * ray * secondsPerYear := by exact_mod_cast h
  unfold simpleInterest
  rw [div_le_iff₀ hpos]
  linarith

/-- what the factor of linear growth adds to one is the simple interest, rounded down -/
theorem cast_interest_le (rate : UInt256) (n : Nat) :
    ((rate.toNat * n / secondsPerYear : Nat) : ℚ) ≤ simpleInterest rate n * ray := by
  have hpos : (0 : ℚ) < ray := by norm_num [ray]
  calc ((rate.toNat * n / secondsPerYear : Nat) : ℚ) ≤ (rate.toNat * n : Nat) / secondsPerYear := Nat.cast_div_le
    _ = simpleInterest rate n * ray := by
      unfold simpleInterest
      push_cast
      field_simp

theorem le_cast_interest (rate : UInt256) (n : Nat) :
    simpleInterest rate n * ray - 1 ≤ ((rate.toNat * n / secondsPerYear : Nat) : ℚ) := by
  have hlt : rate.toNat * n < secondsPerYear * (rate.toNat * n / secondsPerYear + 1) :=
    Nat.lt_mul_div_succ _ (by decide)
  have hlt : (rate.toNat * n : ℚ) < secondsPerYear * ((rate.toNat * n / secondsPerYear : Nat) + 1) := by
    exact_mod_cast hlt
  have hyear : (0 : ℚ) < secondsPerYear := by norm_num [secondsPerYear]
  have hray : (0 : ℚ) < ray := by norm_num [ray]
  have hexact : simpleInterest rate n * ray = rate.toNat * n / secondsPerYear := by
    unfold simpleInterest
    field_simp
  rw [hexact, sub_le_iff_le_add, div_le_iff₀ hyear]
  linarith

/-! ## The supply index -/

section

variable {rate index : UInt256} {since now : Nat}

theorem linearGrowth_le (hrate : rate.toNat ≤ 11 * ray) (hle : since ≤ now) (hyear : now - since ≤ secondsPerYear) :
    ∃ growth, linearGrowth rate since now = .ok growth ∧
      (growth.toNat : ℚ) ≤ ray * (1 + simpleInterest rate (now - since)) ∧ growth.toNat ≤ 12 * ray := by
  have hproduct : rate.toNat * (now - since) ≤ 11 * ray * secondsPerYear := Nat.mul_le_mul hrate hyear
  obtain ⟨interest, hinterest, hvalue⟩ := exists_fit (hproduct.trans (by decide))
  have hquotient : interest.toNat / secondsPerYear ≤ 11 * ray := by
    rw [hvalue]
    exact Nat.div_le_of_le_mul (by linarith)
  obtain ⟨growth, hgrowth, hfactor⟩ := exists_fit ((Nat.add_le_add_left hquotient ray).trans (by decide))
  refine ⟨growth, bind_eq_ok.2 ⟨(), require_eq_ok.2 hle, bind_eq_ok.2 ⟨interest, hinterest, hgrowth⟩⟩, ?_, by omega⟩
  have := cast_interest_le rate (now - since)
  rw [hfactor, hvalue, Nat.cast_add]
  linarith

theorem supplyIndexAt_le (hrate : rate.toNat ≤ 11 * ray) (hindex : index.toNat ≤ 10 * ray) (hle : since ≤ now)
    (hyear : now - since ≤ secondsPerYear) :
    ∃ next, supplyIndexAt rate index since now = .ok next ∧
      (next.toNat : ℚ) ≤ index.toNat * (1 + simpleInterest rate (now - since)) + 1 / 2 ∧ next.toNat ≤ 120 * ray := by
  simp only [supplyIndexAt, bind_eq_ok, require_eq_ok]
  by_cases hzero : rate = 0
  · subst hzero
    refine ⟨index, ⟨(), hle, if_pos rfl⟩, ?_, by omega⟩
    have : simpleInterest 0 (now - since) = 0 := by simp [simpleInterest, toNat_zero]
    rw [this]
    linarith
  · obtain ⟨growth, hlinear, hexact, hgrowthLe⟩ := linearGrowth_le hrate hle hyear
    obtain ⟨next, hnext, hnextLe⟩ := exists_rayMul_le hgrowthLe hindex (by decide)
    refine ⟨next, ⟨(), hle, ?_⟩, ?_, hnextLe.trans (by decide)⟩
    · rw [if_neg hzero]
      exact bind_eq_ok.2 ⟨growth, hlinear, hnext⟩
    · have hpos : (0 : ℚ) < ray := by norm_num [ray]
      calc (next.toNat : ℚ) ≤ growth.toNat * index.toNat / ray + 1 / 2 := rayMul_upper hnext
        _ ≤ ray * (1 + simpleInterest rate (now - since)) * index.toNat / ray + 1 / 2 := by gcongr
        _ = index.toNat * (1 + simpleInterest rate (now - since)) + 1 / 2 := by field_simp

/-! ## The debt index -/

/-- a year at a rate of ten stands for every shorter time and lower rate -/
theorem compoundedTerms_le {n : Nat} (hrate : rate.toNat ≤ 10 * ray) (hn : n ≤ secondsPerYear) :
    ∃ g, compoundedTerms rate n = .ok g ∧ ray + rate.toNat * n / secondsPerYear ≤ g.toNat ∧ g.toNat ≤ 300 * ray := by
  obtain ⟨largest, hlargest, hlargestLe⟩ :
      ∃ g, compoundedTerms ⟨10 * ray, by decide⟩ secondsPerYear = .ok g ∧ g.toNat ≤ 300 * ray := by
    decide +kernel
  obtain ⟨g, hg, hle⟩ := compoundedTerms_within (le_iff.2 hrate) hn largest hlargest
  obtain ⟨interest, hinterest, hsimple⟩ := simpleTerms_le hg
  rw [fit_eq_ok.1 hinterest] at hsimple
  exact ⟨g, hg, hsimple, Nat.le_trans hle hlargestLe⟩

theorem debtIndexAt_ge (hrate : rate.toNat ≤ 10 * ray) (hindex : index.toNat ≤ 10 * ray) (hlt : since < now)
    (hyear : now - since ≤ secondsPerYear) :
    ∃ next, debtIndexAt rate index since now = .ok next ∧
      index.toNat * (1 + simpleInterest rate (now - since)) - 11 ≤ (next.toNat : ℚ) ∧ next.toNat ≤ 3000 * ray := by
  simp only [debtIndexAt, bind_eq_ok, require_eq_ok]
  by_cases hzero : rate = 0
  · subst hzero
    refine ⟨index, ⟨(), hlt.le, if_pos rfl⟩, ?_, by omega⟩
    have : simpleInterest 0 (now - since) = 0 := by simp [simpleInterest, toNat_zero]
    rw [this]
    linarith
  · obtain ⟨growth, hterms, hlow, hhigh⟩ := compoundedTerms_le hrate hyear
    have hcompounded : compoundedGrowth rate since now = .ok growth := by
      rw [compoundedGrowth_eq_ok, if_neg hlt.ne']
      exact ⟨hlt.le, hterms⟩
    obtain ⟨next, hnext, hnextLe⟩ := exists_rayMul_le hhigh hindex (by decide)
    refine ⟨next, ⟨(), hlt.le, ?_⟩, ?_, hnextLe.trans (by decide)⟩
    · rw [if_neg hzero]
      exact bind_eq_ok.2 ⟨growth, hcompounded, hnext⟩
    · have hexact : (ray * (1 + simpleInterest rate (now - since)) - 1 : ℚ) ≤ growth.toNat := by
        have hfloor := le_cast_interest rate (now - since)
        have hlow : ((ray + rate.toNat * (now - since) / secondsPerYear : Nat) : ℚ) ≤ growth.toNat :=
          Nat.cast_le.2 hlow
        rw [Nat.cast_add] at hlow
        linarith
      have hpos : (0 : ℚ) < ray := by norm_num [ray]
      have hindex : (index.toNat : ℚ) ≤ 10 * ray := by exact_mod_cast hindex
      calc (index.toNat * (1 + simpleInterest rate (now - since)) - 11 : ℚ)
          ≤ index.toNat * (1 + simpleInterest rate (now - since)) - index.toNat / ray - 1 / 2 := by
            have : (index.toNat / ray : ℚ) ≤ 10 := (div_le_iff₀ hpos).2 hindex
            linarith
        _ = (ray * (1 + simpleInterest rate (now - since)) - 1) * index.toNat / ray - 1 / 2 := by field_simp
        _ ≤ growth.toNat * index.toNat / ray - 1 / 2 := by gcongr
        _ ≤ next.toNat := rayMul_lower hnext

end

/-! ## What borrowers pay and suppliers earn -/

/-- what a market without stable debt is worth to its suppliers: underlying, debt, and supply that is not backed yet -/
def Balances.assets (balances : Balances) : Nat :=
  balances.available.toNat + balances.unbacked.toNat + balances.variableDebt.toNat

/-- the part of the interest that the treasury leaves to suppliers -/
theorem kept_bounds {factor : Nat} (h : factor ≤ hundredPercent) :
    (0 : ℚ) ≤ 1 - factor / hundredPercent ∧ (1 - factor / hundredPercent : ℚ) ≤ 1 := by
  have hpos : (0 : ℚ) < hundredPercent := by norm_num [hundredPercent]
  have hlow : (0 : ℚ) ≤ factor / hundredPercent := by positivity
  have hhigh : (factor / hundredPercent : ℚ) ≤ 1 := (div_le_one hpos).2 (Nat.cast_le.2 h)
  constructor <;> linarith

variable {curve : RateCurve} {balances : Balances} {rates : InterestRates}

/-- without stable debt, borrowers pay on average hardly more than the variable rate -/
theorem overallRate_le {rate average paid : UInt256} (h : overallRate 0 balances.variableDebt rate average = .ok paid)
    (hd : 0 < balances.variableDebt.toNat) : paid.toNat ≤ rate.toNat + wad := by
  have herror := (abs_le.1 (blendedRate_error h (Nat.lt_add_right _ hd))).2
  have hone : (1 : ℤ) ≤ balances.variableDebt.toNat := by exact_mod_cast hd
  have hwad : (wad : ℤ) ≤ wad * balances.variableDebt.toNat := le_mul_of_one_le_right (by positivity) hone
  rw [toNat_zero] at herror
  by_contra hlt
  have hgap : ((rate.toNat + wad + 1) * balances.variableDebt.toNat : ℤ) ≤ paid.toNat * balances.variableDebt.toNat := by
    gcongr
    omega
  push_cast at herror
  linarith

/-- without debt nobody pays anything, so nobody earns anything -/
theorem RateCurve.liquidityRate_zero (h : curve.rates balances = .ok rates)
    (hnone : balances.variableDebt.toNat + balances.stableDebt.toNat = 0) : rates.liquidityRate.toNat = 0 := by
  obtain ⟨_, debt, paid, earned, hsum, husage, _, hearned, hliquidity⟩ := rates_spec h
  rcases Usage.of_eq_ok husage with ⟨_, hidle⟩ | ⟨hne, _⟩
  · rw [toNat_percentMul hliquidity, toNat_rayMul hearned, hidle, toNat_zero, Nat.mul_zero, halfUp_zero ray_pos,
      Nat.zero_mul]
    exact halfUp_zero (by decide)
  · rw [add_eq_ok] at hsum
    exact absurd (eq_zero_iff.2 (by omega)) hne

/-- the error of the roundings between the two rates is seven rays, at a variable rate of at most ten -/
theorem RateCurve.liquidityRate_mul_assets_le (h : curve.rates balances = .ok rates) (hstable : balances.stableDebt = 0)
    (hpos : 0 < balances.variableDebt.toNat) (hassets : balances.assets ≤ ray)
    (hrate : rates.variableRate.toNat ≤ 10 * ray) :
    rates.liquidityRate.toNat ≤ 11 * ray ∧
      hundredPercent * (balances.assets * rates.liquidityRate.toNat) ≤
        (hundredPercent - balances.reserveFactor) * (rates.variableRate.toNat * balances.variableDebt.toNat) +
          hundredPercent * (7 * ray) := by
  obtain ⟨paid, hpaid, hle, hearned⟩ := liquidityRate_mul_le h (Nat.lt_add_right _ hpos)
  have hwhole : balances.whole = balances.assets := by
    unfold Balances.whole Balances.assets
    rw [hstable, toNat_zero]
    omega
  have hpayments : balances.payments rates.variableRate =
      rates.variableRate.toNat * balances.variableDebt.toNat := by
    unfold Balances.payments
    rw [hstable, toNat_zero, Nat.zero_mul, Nat.add_zero, Nat.mul_comm]
  rw [hwhole, hpayments] at hearned
  rw [hstable] at hpaid
  have hpaidLe := overallRate_le hpaid hpos
  have hwad : 3 * wad ≤ ray := by decide
  have hslack : ray * (2 * wad + 3 * balances.assets) + paid.toNat * balances.assets ≤ ray * (14 * ray) :=
    calc ray * (2 * wad + 3 * balances.assets) + paid.toNat * balances.assets
        ≤ ray * (2 * wad + 3 * ray) + (10 * ray + wad) * ray := by
          gcongr
          omega
      _ = ray * (3 * wad + 13 * ray) := by ring
      _ ≤ ray * (14 * ray) := Nat.mul_le_mul_left _ (by omega)
  have hslack := Nat.mul_le_mul_left hundredPercent hslack
  rw [le_iff] at hle
  refine ⟨by omega, Nat.le_of_mul_le_mul_left (?_ : 2 * ray * _ ≤ 2 * ray * _) (by decide)⟩
  linarith

/-- **Suppliers together earn no more than what borrowers pay, less the reserve factor.** -/
theorem RateCurve.liquidityRate_le (h : curve.rates balances = .ok rates) (hstable : balances.stableDebt = 0)
    (hassets : balances.assets ≤ ray) (hrate : rates.variableRate.toNat ≤ 10 * ray) :
    rates.liquidityRate.toNat ≤ 11 * ray ∧
      (balances.assets * rates.liquidityRate.toNat : ℚ) ≤
        (1 - balances.reserveFactor / hundredPercent) * (rates.variableRate.toNat * balances.variableDebt.toNat) +
          7 * ray := by
  obtain ⟨hfactor, _⟩ := rates_spec h
  obtain ⟨hkept, _⟩ := kept_bounds hfactor
  rcases Nat.eq_zero_or_pos balances.variableDebt.toNat with hnone | hpos
  · have hnothing : balances.variableDebt.toNat + balances.stableDebt.toNat = 0 := by
      rw [hnone, hstable, toNat_zero]
    rw [liquidityRate_zero h hnothing]
    refine ⟨Nat.zero_le _, ?_⟩
    rw [Nat.cast_zero, mul_zero]
    positivity
  · obtain ⟨hle, hearned⟩ := liquidityRate_mul_assets_le h hstable hpos hassets hrate
    have hcast : ((hundredPercent - balances.reserveFactor : Nat) : ℚ) =
        hundredPercent * (1 - balances.reserveFactor / hundredPercent) := by
      rw [Nat.cast_sub hfactor, mul_sub, mul_one, mul_div_cancel₀ _ (by norm_num [hundredPercent])]
    have hearned : (hundredPercent * (balances.assets * rates.liquidityRate.toNat) : ℚ) ≤
        (hundredPercent - balances.reserveFactor : Nat) * (rates.variableRate.toNat * balances.variableDebt.toNat) +
          hundredPercent * (7 * ray) := by exact_mod_cast hearned
    rw [hcast, mul_assoc, ← mul_add] at hearned
    exact ⟨hle, le_of_mul_le_mul_left hearned (by norm_num [hundredPercent])⟩

end Lending
