/-
Suppliers never earn more than borrowers pay net of the reserve factor.

Borrowers pay the overall rate on their debts. The supply usage spreads it over the whole market, and the reserve factor
takes its share. Each step is rounded, and each rounding is bounded for one step alone and carried through the steps
after it: the average of the rates costs one wad and half the debt, the usage half the market at the overall rate, and
the two products half the market each, in rays. Nothing is asked of the size of the debts or of the curve.

Results:
- `overallRate_mul_le`, `earned_mul_le`, `kept_mul_le`: what one step adds, each;
- `RateCurve.earned_le`, `RateCurve.liquidityRate_mul_le`: how that adds up before and after the reserve factor;
- `RateCurve.suppliers_earn_le`: suppliers together earn no more than borrowers pay, less the reserve factor, and no
  more per unit.
-/
import Mathlib.Tactic.GCongr
import Lending.Proofs.WeightedAverage

namespace Lending

open UInt256

/-! ## What borrowers pay -/

/-- what borrowers pay in a year at this variable rate, in units times rays -/
def Balances.payments (balances : Balances) (variableRate : UInt256) : Nat :=
  balances.variableDebt.toNat * variableRate.toNat + balances.stableDebt.toNat * balances.averageStableRate.toNat

/-- everything a market holds and is owed, with the supply that is not backed yet -/
def Balances.whole (balances : Balances) : Nat :=
  balances.available.toNat + balances.variableDebt.toNat + balances.stableDebt.toNat + balances.unbacked.toNat

variable {curve : RateCurve} {balances : Balances} {rates : InterestRates}

theorem overallRate_mul_le {rate paid : UInt256}
    (h : overallRate balances.stableDebt balances.variableDebt rate balances.averageStableRate = .ok paid)
    (hdebt : 0 < balances.variableDebt.toNat + balances.stableDebt.toNat) :
    2 * (paid.toNat * (balances.variableDebt.toNat + balances.stableDebt.toNat)) ≤
      2 * balances.payments rate + 2 * wad + (balances.variableDebt.toNat + balances.stableDebt.toNat) := by
  have herror := (abs_le.1 (blendedRate_error h hdebt)).2
  unfold Balances.payments
  zify
  linarith

/-! ## What suppliers earn -/

/-- spread over the whole market, suppliers earn what borrowers pay, up to two roundings -/
theorem earned_mul_le {debt whole paid usage earned : UInt256} (hwhole : 0 < whole.toNat)
    (husage : debt.rayDiv whole = .ok usage) (h : paid.rayMul usage = .ok earned) :
    2 * (ray * (earned.toNat * whole.toNat)) ≤
      2 * (ray * (paid.toNat * debt.toNat)) + paid.toNat * whole.toNat + ray * whole.toNat := by
  have hspread := two_mul_halfUp_le (debt.toNat * ray) hwhole
  have hproduct := two_mul_halfUp_le (paid.toNat * usage.toNat) ray_pos
  rw [← toNat_rayDiv husage] at hspread
  rw [← toNat_rayMul h] at hproduct
  calc 2 * (ray * (earned.toNat * whole.toNat)) = 2 * (earned.toNat * ray) * whole.toNat := by ring
    _ ≤ (2 * (paid.toNat * usage.toNat) + ray) * whole.toNat := Nat.mul_le_mul_right _ hproduct
    _ = paid.toNat * (2 * (usage.toNat * whole.toNat)) + ray * whole.toNat := by ring
    _ ≤ paid.toNat * (2 * (debt.toNat * ray) + whole.toNat) + ray * whole.toNat := by gcongr
    _ = 2 * (ray * (paid.toNat * debt.toNat)) + paid.toNat * whole.toNat + ray * whole.toNat := by ring

/-- of what they earn, the reserve factor leaves a part, up to one rounding -/
theorem kept_mul_le {earned left : UInt256} {kept : Nat} (h : earned.percentMul kept = .ok left) (whole : Nat) :
    2 * (hundredPercent * ray * (left.toNat * whole)) ≤
      kept * (2 * (ray * (earned.toNat * whole))) + hundredPercent * (ray * whole) := by
  have hshare := two_mul_halfUp_le (earned.toNat * kept) (by decide : 0 < hundredPercent)
  rw [← toNat_percentMul h] at hshare
  calc 2 * (hundredPercent * ray * (left.toNat * whole)) = 2 * (left.toNat * hundredPercent) * (ray * whole) := by ring
    _ ≤ (2 * (earned.toNat * kept) + hundredPercent) * (ray * whole) := Nat.mul_le_mul_right _ hshare
    _ = kept * (2 * (ray * (earned.toNat * whole))) + hundredPercent * (ray * whole) := by ring

namespace RateCurve

/-- before the reserve factor, suppliers together earn hardly more than the payments -/
theorem earned_le (h : curve.rates balances = .ok rates)
    (hdebt : 0 < balances.variableDebt.toNat + balances.stableDebt.toNat) :
    ∃ paid earned : UInt256,
      overallRate balances.stableDebt balances.variableDebt rates.variableRate balances.averageStableRate = .ok paid ∧
      earned ≤ paid ∧ earned.percentMul (hundredPercent - balances.reserveFactor) = .ok rates.liquidityRate ∧
      2 * (ray * (earned.toNat * balances.whole)) ≤
        2 * (ray * balances.payments rates.variableRate) +
          (ray * (2 * wad + 2 * balances.whole) + paid.toNat * balances.whole) := by
  obtain ⟨_, debt, paid, earned, hsum, husage, hpaid, hearned, hliquidity⟩ := rates_spec h
  have hone := Usage.of_bounds husage
  rcases Usage.of_eq_ok husage with ⟨hzero, _⟩ | ⟨_, backed, whole, hbacked, _, hwhole, hsupply, _⟩
  · rw [add_eq_ok, hzero, toNat_zero] at hsum
    omega
  rw [add_eq_ok] at hsum hbacked hwhole
  have hdebtSum : debt.toNat = balances.variableDebt.toNat + balances.stableDebt.toNat := by omega
  have hwholeSum : whole.toNat = balances.whole := by
    unfold Balances.whole
    omega
  have hpays := overallRate_mul_le hpaid hdebt
  have hearns := earned_mul_le (by omega) hsupply hearned
  rw [← hdebtSum] at hpays
  rw [hwholeSum] at hearns
  refine ⟨paid, earned, hpaid, ?_, hliquidity, ?_⟩
  · rw [le_iff, toNat_rayMul hearned]
    exact halfUp_mul_le ray_pos _ (hone.1.trans hone.2)
  · have hdebtLe : debt.toNat ≤ balances.whole := by omega
    have hpaysLe : 2 * (paid.toNat * debt.toNat) ≤
        2 * balances.payments rates.variableRate + 2 * wad + balances.whole := by omega
    have := Nat.mul_le_mul_left ray hpaysLe
    linarith

/-- **Suppliers together earn hardly more than what the reserve factor leaves of the payments.** -/
theorem liquidityRate_mul_le (h : curve.rates balances = .ok rates)
    (hdebt : 0 < balances.variableDebt.toNat + balances.stableDebt.toNat) :
    ∃ paid, overallRate balances.stableDebt balances.variableDebt rates.variableRate balances.averageStableRate =
        .ok paid ∧ rates.liquidityRate ≤ paid ∧
      2 * (hundredPercent * ray * (rates.liquidityRate.toNat * balances.whole)) ≤
        2 * ((hundredPercent - balances.reserveFactor) * ray * balances.payments rates.variableRate) +
          hundredPercent * (ray * (2 * wad + 3 * balances.whole) + paid.toNat * balances.whole) := by
  obtain ⟨paid, earned, hpaid, hearnedLe, hliquidity, hearned⟩ := earned_le h hdebt
  have hfactor : hundredPercent - balances.reserveFactor ≤ hundredPercent := Nat.sub_le _ _
  refine ⟨paid, hpaid, ?_, ?_⟩
  · rw [le_iff, toNat_percentMul hliquidity]
    exact (halfUp_mul_le (by decide) _ hfactor).trans hearnedLe
  · have hkept := kept_mul_le hliquidity balances.whole
    generalize hundredPercent - balances.reserveFactor = kept at *
    generalize balances.payments rates.variableRate = payments at *
    generalize balances.whole = whole at *
    calc 2 * (hundredPercent * ray * (rates.liquidityRate.toNat * whole))
        ≤ kept * (2 * (ray * (earned.toNat * whole))) + hundredPercent * (ray * whole) := hkept
      _ ≤ kept * (2 * (ray * payments) + (ray * (2 * wad + 2 * whole) + paid.toNat * whole)) +
          hundredPercent * (ray * whole) := by gcongr
      _ = 2 * (kept * ray * payments) + kept * (ray * (2 * wad + 2 * whole) + paid.toNat * whole) +
          hundredPercent * (ray * whole) := by ring
      _ ≤ 2 * (kept * ray * payments) + hundredPercent * (ray * (2 * wad + 2 * whole) + paid.toNat * whole) +
          hundredPercent * (ray * whole) := by gcongr
      _ = 2 * (kept * ray * payments) + hundredPercent * (ray * (2 * wad + 3 * whole) + paid.toNat * whole) := by ring

/-- **Suppliers never earn more than borrowers pay net of the reserve factor**, whatever the sizes of the debts, up to
the roundings; and a unit supplied never earns more than a unit of debt pays on average. -/
theorem suppliers_earn_le (h : curve.rates balances = .ok rates)
    (hdebt : 0 < balances.variableDebt.toNat + balances.stableDebt.toNat) :
    ∃ paid, overallRate balances.stableDebt balances.variableDebt rates.variableRate balances.averageStableRate =
        .ok paid ∧
      hundredPercent * ray * (rates.liquidityRate.toNat * balances.whole) ≤
        (hundredPercent - balances.reserveFactor) * ray * balances.payments rates.variableRate +
          hundredPercent * (ray * (wad + 2 * balances.whole) + paid.toNat * balances.whole) ∧
      rates.liquidityRate ≤ paid := by
  obtain ⟨paid, hpaid, hle, hearned⟩ := liquidityRate_mul_le h hdebt
  refine ⟨paid, hpaid, ?_, hle⟩
  have hslack : ray * (2 * wad + 3 * balances.whole) + paid.toNat * balances.whole ≤
      2 * (ray * (wad + 2 * balances.whole) + paid.toNat * balances.whole) := by
    linarith [Nat.zero_le (ray * balances.whole), Nat.zero_le (paid.toNat * balances.whole)]
  have := Nat.mul_le_mul_left hundredPercent hslack
  linarith

end RateCurve

/-- 90 tokens of 100 are lent out at both kinds of rate, and 20 more were supplied that are not backed yet -/
def Sample.dilutedMarket : Balances where
  stableDebt := tokens 30
  variableDebt := tokens 60
  averageStableRate := percent 9
  available := tokens 10
  unbacked := tokens 20
  reserveFactor := 1000

theorem RateCurve.suppliers_earn_le_sample :
    ∃ rates paid, Sample.curve.rates Sample.dilutedMarket = .ok rates ∧ rates.liquidityRate ≠ 0 ∧
      overallRate Sample.dilutedMarket.stableDebt Sample.dilutedMarket.variableDebt rates.variableRate
        Sample.dilutedMarket.averageStableRate = .ok paid ∧
      hundredPercent * ray * (rates.liquidityRate.toNat * Sample.dilutedMarket.whole) ≤
        (hundredPercent - Sample.dilutedMarket.reserveFactor) * ray *
            Sample.dilutedMarket.payments rates.variableRate +
          hundredPercent * (ray * (wad + 2 * Sample.dilutedMarket.whole) + paid.toNat * Sample.dilutedMarket.whole) ∧
      rates.liquidityRate ≤ paid := by
  obtain ⟨rates, hrates, hne⟩ :
      ∃ rates, Sample.curve.rates Sample.dilutedMarket = .ok rates ∧ rates.liquidityRate ≠ 0 := by
    decide +kernel
  obtain ⟨paid, hpaid, hearned, hle⟩ := suppliers_earn_le hrates (by decide)
  exact ⟨rates, paid, hrates, hne, hpaid, hearned, hle⟩

end Lending
