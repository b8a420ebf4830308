/-
Accrual keeps a market solvent.

In a market without stable debt, suppliers and the treasury are credited no more than borrowers are charged. Suppliers
earn simple interest on what borrowers pay less the reserve factor, the treasury takes the reserve factor of the
interest that borrowers owe, and these owe compound interest, which is more than simple interest. What is left is
rounding, and it is followed here from one step to the next.

Results:
- `Moderate.debt_grows`: borrowers are charged at least simple interest;
- `Moderate.suppliers_earn`: suppliers together earn no more than what is left of it;
- `creditAt_le_share`: the treasury is credited its share;
- `Budget.supply_le`: the two together are credited no more than borrowers are charged;
- `accrue_solvent`: a market that covers its suppliers and its treasury covers them a year later, up to 200 units.
-/
import Lending.Proofs.Accrual
import Lending.Proofs.InterestBounds
import Lending.Sample

namespace Lending.Reserve

open UInt256

/-- a market without stable debt, with the rates of a curve, whose indices, rates and balances are of plausible size -/
structure Moderate (curve : RateCurve) (r : Reserve) : Prop where
  principalStableDebt : r.principalStableDebt = 0
  totalStableDebt : r.totalStableDebt = 0
  variableDebt : r.scaledVariableDebt.rayMul r.debtIndex = .ok r.totalVariableDebt
  rates : curve.rates r.balances = .ok r.rates
  one_le_liquidityIndex : ray ≤ r.liquidityIndex.toNat
  liquidityIndex_le : r.liquidityIndex.toNat ≤ 10 * ray
  one_le_debtIndex : ray ≤ r.debtIndex.toNat
  debtIndex_le : r.debtIndex.toNat ≤ 10 * ray
  variableRate_le : r.rates.variableRate.toNat ≤ 10 * ray
  factor_le : r.listing.reserveFactor ≤ hundredPercent
  assets_le : r.available.toNat + r.unbacked.toNat + r.totalVariableDebt.toNat ≤ ray

/-- the market owes its suppliers and its treasury at most `slack` more than it has -/
def SolventWithin (slack : Nat) (r : Reserve) : Prop :=
  ∃ supply, r.totalSupply = .ok supply ∧
    supply.toNat ≤ r.available.toNat + r.unbacked.toNat + r.totalVariableDebt.toNat + slack

variable {r s : Reserve} {curve : RateCurve} {now n : Nat}

/-! ## Supply -/

theorem totalSupply_eq_ok {supply : UInt256} :
    r.totalSupply = .ok supply ↔ ∃ users treasury, r.scaledSupply.rayMul r.liquidityIndex = .ok users ∧
      r.treasuryScaled.rayMul r.liquidityIndex = .ok treasury ∧ supply.toNat = users.toNat + treasury.toNat := by
  simp only [totalSupply, bind_eq_ok, add_eq_ok]
  constructor
  · rintro ⟨users, hu, treasury, ht, hsum⟩
    exact ⟨users, treasury, hu, ht, hsum⟩
  · rintro ⟨users, treasury, hu, ht, hsum⟩
    exact ⟨users, hu, treasury, ht, hsum⟩

/-- a solvent market's scaled supply is no more than its assets, and worth no more than them and one unit -/
theorem SolventWithin.supply_le (hs : r.SolventWithin 0) (hi : ray ≤ r.liquidityIndex.toNat) :
    r.scaledSupply.toNat + r.treasuryScaled.toNat ≤ r.balances.assets ∧
      ((r.scaledSupply.toNat + r.treasuryScaled.toNat) * r.liquidityIndex.toNat / ray : ℚ) ≤
        r.balances.assets + 1 := by
  obtain ⟨supply, hsupply, hle⟩ := hs
  obtain ⟨users, treasury, hu, ht, hsum⟩ := totalSupply_eq_ok.1 hsupply
  have hassets : users.toNat + treasury.toNat ≤ r.balances.assets := hsum ▸ hle
  have := le_of_rayMul hi hu
  have := le_of_rayMul hi ht
  refine ⟨by omega, ?_⟩
  have hworth : (users.toNat + treasury.toNat : ℚ) ≤ r.balances.assets := by exact_mod_cast hassets
  have := rayMul_lower hu
  have := rayMul_lower ht
  rw [add_mul, add_div]
  linarith

/-! ## Debt -/

theorem Moderate.scaledDebt_le (h : r.Moderate curve) : r.scaledVariableDebt.toNat ≤ ray :=
  (le_of_rayMul h.one_le_debtIndex h.variableDebt).trans ((Nat.le_add_left _ _).trans h.assets_le)

/-- with an index that grows by `x`, so does the debt, up to the roundings of the index and of the debt there was -/
theorem Moderate.worth_grows (h : r.Moderate curve) {index : UInt256} {x : ℚ} (hnonneg : 0 ≤ x) (hx : x ≤ 10)
    (hgrowth : r.debtIndex.toNat * (1 + x) - 11 ≤ (index.toNat : ℚ)) :
    (r.totalVariableDebt.toNat * (1 + x) - 35 / 2 : ℚ) ≤ r.scaledVariableDebt.toNat * index.toNat / ray := by
  have hray : (0 : ℚ) < ray := by norm_num [ray]
  have hpart : (r.scaledVariableDebt.toNat / ray : ℚ) ≤ 1 := (div_le_one hray).2 (Nat.cast_le.2 h.scaledDebt_le)
  have hbefore : (r.totalVariableDebt.toNat - 1 / 2 : ℚ) ≤ r.scaledVariableDebt.toNat * r.debtIndex.toNat / ray := by
    have := rayMul_upper h.variableDebt
    linarith
  calc (r.totalVariableDebt.toNat * (1 + x) - 35 / 2 : ℚ)
      ≤ (r.totalVariableDebt.toNat - 1 / 2) * (1 + x) - 11 * 1 := by linarith
    _ ≤ r.scaledVariableDebt.toNat * r.debtIndex.toNat / ray * (1 + x) - 11 * (r.scaledVariableDebt.toNat / ray) := by
        gcongr
    _ = r.scaledVariableDebt.toNat * (r.debtIndex.toNat * (1 + x) - 11) / ray := by ring
    _ ≤ r.scaledVariableDebt.toNat * index.toNat / ray := by gcongr

/-- **Borrowers are charged at least simple interest on the variable debt.** -/
theorem Moderate.debt_grows (h : r.Moderate curve) (hlt : r.lastUpdate < now)
    (hyear : now - r.lastUpdate ≤ secondsPerYear) :
    ∃ index debt, r.debtIndexNow now = .ok index ∧ r.scaledVariableDebt.rayMul index = .ok debt ∧
      r.totalVariableDebt.toNat ≤ debt.toNat ∧ debt.toNat ≤ 3000 * ray ∧
      r.totalVariableDebt.toNat * (1 + simpleInterest r.rates.variableRate (now - r.lastUpdate)) - 18 ≤
        (debt.toNat : ℚ) := by
  unfold debtIndexNow
  by_cases hzero : r.scaledVariableDebt = 0
  · have hnone : r.totalVariableDebt.toNat = 0 := by
      rw [toNat_rayMul h.variableDebt, hzero, toNat_zero, Nat.zero_mul]
      exact halfUp_zero ray_pos
    refine ⟨r.debtIndex, r.totalVariableDebt, if_pos hzero, h.variableDebt, le_rfl, by omega, ?_⟩
    rw [hnone]
    norm_num
  · obtain ⟨index, hindex, hgrowth, hle⟩ := debtIndexAt_ge h.variableRate_le h.debtIndex_le hlt hyear
    obtain ⟨debt, hnext, hnextLe⟩ := exists_rayMul_le h.scaledDebt_le hle (by decide)
    refine ⟨index, debt, (if_neg hzero).trans hindex, hnext, ?_, hnextLe.trans (by decide), ?_⟩
    · rw [toNat_rayMul h.variableDebt, toNat_rayMul hnext]
      exact halfUp_mono (Nat.mul_le_mul_left _ (le_debtIndexAt hindex)) _
    · have hinterest := simpleInterest_le h.variableRate_le hyear
      have hworth := h.worth_grows (simpleInterest_nonneg _ _) (by exact_mod_cast hinterest) hgrowth
      have := rayMul_lower hnext
      linarith

/-! ## Interest -/

/-- **Suppliers together earn no more than simple interest on the variable debt, less the reserve factor.** -/
theorem Moderate.suppliers_earn (h : r.Moderate curve) (hn : n ≤ secondsPerYear) :
    (r.balances.assets * simpleInterest r.rates.liquidityRate n : ℚ) ≤
      (1 - r.listing.reserveFactor / hundredPercent) *
        (r.totalVariableDebt.toNat * simpleInterest r.rates.variableRate n) + 7 := by
  have hearn := (RateCurve.liquidityRate_le h.rates h.totalStableDebt h.assets_le h.variableRate_le).2
  have hray : (0 : ℚ) < ray := by norm_num [ray]
  have hyear : (0 : ℚ) < secondsPerYear := by norm_num [secondsPerYear]
  have hpart : (n / secondsPerYear : ℚ) ≤ 1 := (div_le_one hyear).2 (Nat.cast_le.2 hn)
  unfold simpleInterest
  calc (r.balances.assets * (r.rates.liquidityRate.toNat * n / (secondsPerYear * ray)) : ℚ)
      = r.balances.assets * r.rates.liquidityRate.toNat * (n / (secondsPerYear * ray)) := by ring
    _ ≤ ((1 - r.listing.reserveFactor / hundredPercent) * (r.rates.variableRate.toNat * r.totalVariableDebt.toNat) +
          7 * ray) * (n / (secondsPerYear * ray)) := by
        gcongr
        exact hearn
    _ = (1 - r.listing.reserveFactor / hundredPercent) *
          (r.totalVariableDebt.toNat * (r.rates.variableRate.toNat * n / (secondsPerYear * ray))) +
          7 * (n / secondsPerYear) := by
        field_simp
    _ ≤ (1 - r.listing.reserveFactor / hundredPercent) *
          (r.totalVariableDebt.toNat * (r.rates.variableRate.toNat * n / (secondsPerYear * ray))) + 7 := by
        linarith

/-- **The treasury's supply is worth its share of the interest more than before**, up to a rounding at the index -/
theorem creditAt_le_share {share index : UInt256} (hi : ray ≤ index.toNat) (hindex : index.toNat ≤ 120 * ray)
    (ht : r.treasuryScaled.toNat ≤ ray) (hshare : share.toNat ≤ 3000 * ray) :
    ∃ treasury, r.creditAt share index = .ok treasury ∧ treasury.toNat ≤ 3001 * ray ∧
      (treasury.toNat * index.toNat / ray : ℚ) ≤
        r.treasuryScaled.toNat * index.toNat / ray + share.toNat + 61 := by
  unfold creditAt
  by_cases hzero : share = 0
  · refine ⟨r.treasuryScaled, if_pos hzero, by omega, ?_⟩
    rw [hzero, toNat_zero, Nat.cast_zero]
    linarith
  · have hproduct : share.toNat * ray ≤ 3000 * ray * ray := Nat.mul_le_mul_right ray hshare
    have hpos : 0 < index.toNat := Nat.lt_of_lt_of_le ray_pos hi
    obtain ⟨scaled, hscaled⟩ := exists_rayDiv hpos (hindex.trans (by decide)) (hproduct.trans (by decide))
    have hscaledLe : scaled.toNat ≤ share.toNat := by
      rw [toNat_rayDiv hscaled]
      exact halfUp_div_le hpos _ hi
    have hsum : r.treasuryScaled.toNat + scaled.toNat ≤ 3001 * ray := by omega
    obtain ⟨treasury, hadd, hvalue⟩ := exists_add (hsum.trans (by decide))
    refine ⟨treasury, ?_, hvalue ▸ hsum, ?_⟩
    · rw [if_neg hzero]
      exact bind_eq_ok.2 ⟨scaled, hscaled, hadd⟩
    · have hray : (0 : ℚ) < ray := by norm_num [ray]
      have hq : (0 : ℚ) < index.toNat := Nat.cast_pos.2 hpos
      have hhalf : (index.toNat / ray : ℚ) ≤ 120 := (div_le_iff₀ hray).2 (by exact_mod_cast hindex)
      calc (treasury.toNat * index.toNat / ray : ℚ)
          = r.treasuryScaled.toNat * index.toNat / ray + scaled.toNat * index.toNat / ray := by
            rw [hvalue, Nat.cast_add]
            ring
        _ ≤ r.treasuryScaled.toNat * index.toNat / ray +
              (share.toNat * ray / index.toNat + 1 / 2) * index.toNat / ray := by
            gcongr
            exact rayDiv_upper hscaled
        _ = r.treasuryScaled.toNat * index.toNat / ray + share.toNat + index.toNat / ray / 2 := by
            field_simp
            ring
        _ ≤ r.treasuryScaled.toNat * index.toNat / ray + share.toNat + 61 := by linarith

/-! ## The budget -/

/-- what `n` seconds do to a market, as far as its solvency goes, while the treasury earns `share` -/
structure Budget (n : Nat) (r s : Reserve) (share : UInt256) : Prop where
  index : (s.liquidityIndex.toNat : ℚ) ≤
    r.liquidityIndex.toNat * (1 + simpleInterest r.rates.liquidityRate n) + 1 / 2
  index_le : s.liquidityIndex.toNat ≤ 120 * ray
  debt : r.totalVariableDebt.toNat * (1 + simpleInterest r.rates.variableRate n) - 18 ≤ (s.totalVariableDebt.toNat : ℚ)
  share_le : (share.toNat : ℚ) ≤
    r.listing.reserveFactor / hundredPercent * (s.totalVariableDebt.toNat - r.totalVariableDebt.toNat) + 1 / 2
  treasury : (s.treasuryScaled.toNat * s.liquidityIndex.toNat / ray : ℚ) ≤
    r.treasuryScaled.toNat * s.liquidityIndex.toNat / ray + share.toNat + 61
  treasury_le : s.treasuryScaled.toNat ≤ 3001 * ray

/-- a moderate market can be brought forward by up to a year, within its budget -/
theorem Moderate.advances (h : r.Moderate curve) (ht : r.treasuryScaled.toNat ≤ ray) (hlt : r.lastUpdate < now)
    (hn : now - r.lastUpdate ≤ secondsPerYear) :
    ∃ s share, Advances now r s ∧ Budget (now - r.lastUpdate) r s share := by
  obtain ⟨hrate, _⟩ := RateCurve.liquidityRate_le h.rates h.totalStableDebt h.assets_le h.variableRate_le
  obtain ⟨index, hindex, hgrowth, hindexLe⟩ := supplyIndexAt_le hrate h.liquidityIndex_le hlt.le hn
  obtain ⟨debtIndex, debt, hdebtIndex, hdebt, hgrows, hdebtLe, hcharged⟩ := h.debt_grows hlt hn
  have hindexGe : ray ≤ index.toNat := h.one_le_liquidityIndex.trans (le_supplyIndexAt hindex)
  have hinterestLe : (debt.monus r.totalVariableDebt).toNat ≤ 3000 * ray := (Nat.sub_le _ _).trans hdebtLe
  obtain ⟨share, hshare⟩ : ∃ share, (debt.monus r.totalVariableDebt).percentMul r.listing.reserveFactor = .ok share :=
    exists_percentMul ((Nat.mul_le_mul hinterestLe h.factor_le).trans (by decide))
  have hshareLe : share.toNat ≤ 3000 * ray := by
    rw [toNat_percentMul hshare]
    exact (halfUp_mul_le (by decide) _ h.factor_le).trans hinterestLe
  obtain ⟨treasury, hcredit, htreasuryLe, hworth⟩ := creditAt_le_share hindexGe hindexLe ht hshareLe
  have hstable (t : Nat) : r.stableDebtNow t = .ok 0 := if_pos h.principalStableDebt
  have hadd (a : UInt256) : a.add 0 = .ok a := add_eq_ok.2 rfl
  refine ⟨{ r with liquidityIndex := index, debtIndex, totalVariableDebt := debt, totalStableDebt := 0,
                   treasuryScaled := treasury, lastUpdate := now }, share, ?_, ?_⟩
  · refine ⟨hindex, hdebtIndex, hdebt, hstable now, ⟨share, ?_, hcredit⟩, rfl⟩
    exact ⟨_, h.variableDebt, 0, hstable _, debt, hadd debt, _, hadd _, _, sub_eq_ok.2 ⟨hgrows, rfl⟩, hshare⟩
  · refine ⟨hgrowth, hindexLe, hcharged, ?_, hworth, htreasuryLe⟩
    have hupper := percentMul_upper hshare
    rw [toNat_monus, Nat.cast_sub hgrows, mul_div_assoc, mul_comm] at hupper
    exact hupper

variable {share : UInt256}

/-- The supply there was is worth no more than the assets and the interest on them: its worth before, simple interest on
it, and the rounding of the index. -/
theorem Budget.supplied_le (h : Budget n r s share) (hm : r.Moderate curve) (hs : r.SolventWithin 0) :
    ((r.scaledSupply.toNat + r.treasuryScaled.toNat) * s.liquidityIndex.toNat / ray : ℚ) ≤
      (r.balances.assets + 1) * (1 + simpleInterest r.rates.liquidityRate n) + 1 / 2 := by
  obtain ⟨hscaled, hworth⟩ := hs.supply_le hm.one_le_liquidityIndex
  have hindex := h.index
  have hinterest := simpleInterest_nonneg r.rates.liquidityRate n
  generalize simpleInterest r.rates.liquidityRate n = y at *
  have hray : (0 : ℚ) < ray := by norm_num [ray]
  have hpart : ((r.scaledSupply.toNat + r.treasuryScaled.toNat) / ray : ℚ) ≤ 1 :=
    (div_le_one hray).2 (by exact_mod_cast hscaled.trans hm.assets_le)
  calc ((r.scaledSupply.toNat + r.treasuryScaled.toNat) * s.liquidityIndex.toNat / ray : ℚ)
      ≤ (r.scaledSupply.toNat + r.treasuryScaled.toNat) * (r.liquidityIndex.toNat * (1 + y) + 1 / 2) / ray := by gcongr
    _ = (r.scaledSupply.toNat + r.treasuryScaled.toNat) * r.liquidityIndex.toNat / ray * (1 + y) +
          (r.scaledSupply.toNat + r.treasuryScaled.toNat) / ray * (1 / 2) := by ring
    _ ≤ (r.balances.assets + 1) * (1 + y) + 1 * (1 / 2) := by gcongr
    _ = (r.balances.assets + 1) * (1 + y) + 1 / 2 := by ring

/-- of the interest that borrowers are charged, suppliers get no more than what the reserve factor leaves -/
theorem Budget.interest_le (h : Budget n r s share) (hm : r.Moderate curve) (hn : n ≤ secondsPerYear) :
    (r.balances.assets * simpleInterest r.rates.liquidityRate n : ℚ) ≤
      (1 - r.listing.reserveFactor / hundredPercent) * (s.totalVariableDebt.toNat - r.totalVariableDebt.toNat) +
        25 := by
  have hearned := hm.suppliers_earn hn
  have hcharged := h.debt
  obtain ⟨hkept, hkeptLe⟩ := kept_bounds hm.factor_le
  generalize (1 - r.listing.reserveFactor / hundredPercent : ℚ) = kept at *
  generalize simpleInterest r.rates.variableRate n = x at *
  have howed : (r.totalVariableDebt.toNat * x : ℚ) ≤ s.totalVariableDebt.toNat - r.totalVariableDebt.toNat + 18 := by
    linarith
  calc (r.balances.assets * simpleInterest r.rates.liquidityRate n : ℚ)
      ≤ kept * (r.totalVariableDebt.toNat * x) + 7 := hearned
    _ ≤ kept * (s.totalVariableDebt.toNat - r.totalVariableDebt.toNat + 18) + 7 := by gcongr
    _ ≤ kept * (s.totalVariableDebt.toNat - r.totalVariableDebt.toNat) + 25 := by linarith

/-- **What suppliers and the treasury are credited stays below what borrowers are charged.** -/
theorem Budget.supply_le (h : Budget n r s share) (hm : r.Moderate curve) (hs : r.SolventWithin 0)
    (hn : n ≤ secondsPerYear) :
    ((r.scaledSupply.toNat * s.liquidityIndex.toNat / ray + 1 / 2) +
        (s.treasuryScaled.toNat * s.liquidityIndex.toNat / ray + 1 / 2) : ℚ) ≤
      r.balances.assets + (s.totalVariableDebt.toNat - r.totalVariableDebt.toNat) + 200 := by
  obtain ⟨hrate, _⟩ := RateCurve.liquidityRate_le hm.rates hm.totalStableDebt hm.assets_le hm.variableRate_le
  have hy : simpleInterest r.rates.liquidityRate n ≤ 11 := by exact_mod_cast simpleInterest_le hrate hn
  have hsupplied := h.supplied_le hm hs
  have hinterest := h.interest_le hm hn
  have hshare := h.share_le
  have htreasury := h.treasury
  generalize simpleInterest r.rates.liquidityRate n = y at *
  generalize (r.listing.reserveFactor / hundredPercent : ℚ) = factor at *
  calc ((r.scaledSupply.toNat * s.liquidityIndex.toNat / ray + 1 / 2) +
        (s.treasuryScaled.toNat * s.liquidityIndex.toNat / ray + 1 / 2) : ℚ)
      ≤ r.scaledSupply.toNat * s.liquidityIndex.toNat / ray + r.treasuryScaled.toNat * s.liquidityIndex.toNat / ray +
          share.toNat + 62 := by linarith
    _ = (r.scaledSupply.toNat + r.treasuryScaled.toNat) * s.liquidityIndex.toNat / ray + share.toNat + 62 := by ring
    _ ≤ (r.balances.assets + 1) * (1 + y) + 1 / 2 + share.toNat + 62 := by linarith
    _ = r.balances.assets + r.balances.assets * y + y + share.toNat + 127 / 2 := by ring
    -- the reserve factor goes to the treasury, what it leaves to suppliers
    _ ≤ r.balances.assets + ((1 - factor) * (s.totalVariableDebt.toNat - r.totalVariableDebt.toNat) + 25) + 11 +
          (factor * (s.totalVariableDebt.toNat - r.totalVariableDebt.toNat) + 1 / 2) + 127 / 2 := by linarith
    _ ≤ r.balances.assets + (s.totalVariableDebt.toNat - r.totalVariableDebt.toNat) + 200 := by linarith

theorem Budget.solvent (h : Budget n r s share) (hadv : Advances now r s) (hm : r.Moderate curve)
    (hs : r.SolventWithin 0) (hn : n ≤ secondsPerYear) : s.SolventWithin 200 := by
  obtain ⟨hscaled, _⟩ := hs.supply_le hm.one_le_liquidityIndex
  have hassets : r.balances.assets ≤ ray := hm.assets_le
  have hbound := h.supply_le hm hs hn
  have hsame := hadv.same
  have hscaledSupply : s.scaledSupply = r.scaledSupply := by rw [hsame]
  have havailable : s.available = r.available := by rw [hsame]
  have hunbacked : s.unbacked = r.unbacked := by rw [hsame]
  have hscaledLe : s.scaledSupply.toNat ≤ ray := by
    rw [hscaledSupply]
    omega
  obtain ⟨users, hu, husersLe⟩ := exists_rayMul_le hscaledLe h.index_le (by decide)
  obtain ⟨treasury, ht, htreasuryLe⟩ := exists_rayMul_le h.treasury_le h.index_le (by decide)
  have hcredited : (users.toNat + treasury.toNat : ℚ) ≤
      r.balances.assets + (s.totalVariableDebt.toNat - r.totalVariableDebt.toNat) + 200 := by
    have := rayMul_upper hu
    have := rayMul_upper ht
    rw [hscaledSupply] at *
    linarith
  have hcovered : users.toNat + treasury.toNat + r.totalVariableDebt.toNat ≤
      r.balances.assets + s.totalVariableDebt.toNat + 200 := by
    have : (users.toNat + treasury.toNat + r.totalVariableDebt.toNat : ℚ) ≤
      r.balances.assets + s.totalVariableDebt.toNat + 200 := by linarith
    exact_mod_cast this
  have hsum : users.toNat + treasury.toNat ≤
      s.available.toNat + s.unbacked.toNat + s.totalVariableDebt.toNat + 200 := by
    simp only [Balances.assets, balances] at hcovered
    rw [havailable, hunbacked]
    omega
  obtain ⟨supply, _, hsupply⟩ := exists_add ((Nat.add_le_add husersLe htreasuryLe).trans (by decide))
  exact ⟨supply, totalSupply_eq_ok.2 ⟨users, treasury, hu, ht, hsupply⟩, hsupply ▸ hsum⟩

/-- **A market that covers its suppliers and its treasury covers them whenever it is accrued within a year**, up to 200
units of rounding, and the accrual goes through. -/
theorem accrue_solvent (h : r.Moderate curve) (hs : r.SolventWithin 0) (hle : r.lastUpdate ≤ now)
    (hyear : now ≤ r.lastUpdate + secondsPerYear) : ∃ s, r.accrue now = .ok s ∧ s.SolventWithin 200 := by
  rcases Nat.eq_or_lt_of_le hle with rfl | hlt
  · obtain ⟨supply, hsupply, hcovered⟩ := hs
    exact ⟨r, r.accrue_self, supply, hsupply, by omega⟩
  · have hn : now - r.lastUpdate ≤ secondsPerYear := by omega
    obtain ⟨hscaled, _⟩ := hs.supply_le h.one_le_liquidityIndex
    have hassets : r.balances.assets ≤ ray := h.assets_le
    obtain ⟨s, share, hadv, hbudget⟩ := h.advances (by omega) hlt hn
    exact ⟨s, hadv.accrue hlt, hbudget.solvent hadv h hs hn⟩

/-- a third of the sample market is lent out, and after a year its supply has grown -/
theorem accrue_solvent_borrowed :
    ∃ r s, Sample.borrowedReserve = .ok r ∧ r.Moderate Sample.curve ∧ r.SolventWithin 0 ∧
      r.accrue secondsPerYear = .ok s ∧ s.SolventWithin 200 := by
  obtain ⟨r, hr, hp, ht, hv, hrates, hl, hl', hd, hd', hvr, hf, ha, hs, htime⟩ :
      ∃ r, Sample.borrowedReserve = .ok r ∧ r.principalStableDebt = 0 ∧ r.totalStableDebt = 0 ∧
        r.scaledVariableDebt.rayMul r.debtIndex = .ok r.totalVariableDebt ∧
        Sample.curve.rates r.balances = .ok r.rates ∧ ray ≤ r.liquidityIndex.toNat ∧
        r.liquidityIndex.toNat ≤ 10 * ray ∧ ray ≤ r.debtIndex.toNat ∧ r.debtIndex.toNat ≤ 10 * ray ∧
        r.rates.variableRate.toNat ≤ 10 * ray ∧ r.listing.reserveFactor ≤ hundredPercent ∧
        r.available.toNat + r.unbacked.toNat + r.totalVariableDebt.toNat ≤ ray ∧
        (∃ supply, r.totalSupply = .ok supply ∧
          supply.toNat ≤ r.available.toNat + r.unbacked.toNat + r.totalVariableDebt.toNat + 0) ∧
        r.lastUpdate = 0 := by
    decide +kernel
  have hm : r.Moderate Sample.curve := ⟨hp, ht, hv, hrates, hl, hl', hd, hd', hvr, hf, ha⟩
  obtain ⟨s, haccrue, hsolvent⟩ := accrue_solvent hm hs (by omega : r.lastUpdate ≤ secondsPerYear) (by omega)
  exact ⟨r, s, hr, hm, hs, haccrue, hsolvent⟩

end Lending.Reserve
