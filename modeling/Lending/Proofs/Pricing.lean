/-
A liquidation pays a fair price, in both directions.

One unit of an asset is worth a ratio of two products of prices and units in another asset, `given.per wanted` over
`wanted.per given`. The collateral that is seized should be worth the debt that is covered times the bonus. Two
roundings stand between them on the way from the offer to the collateral, a division rounded down and the bonus rounded
half up, and two on the way back from a balance that is too small.

Results:
- `exchange_bounds`: an exchange loses less than one unit;
- `seized_worth`: what is seized for an offer, against the worth of the offer;
- `covered_worth`: what a balance covers, against the worth of the balance;
- `quote_fair`: a quote fails only when a number grows too large, and its amounts are fair.
-/
import Lending.Proofs.LiquidationRefusals

namespace Lending.Liquidation

open UInt256

/-! ## Exchanging -/

/-- a unit of `given` is worth this much of `wanted`, over the same the other way round -/
def Valuation.per (given wanted : Valuation) : Nat := given.price.toNat * wanted.unit.toNat

theorem exchange_bounds {amount result : UInt256} {given wanted : Valuation}
    (h : exchange amount given wanted = .ok result) :
    result.toNat * wanted.per given ≤ amount.toNat * given.per wanted ∧
      amount.toNat * given.per wanted < (result.toNat + 1) * wanted.per given := by
  obtain ⟨hpos, hresult⟩ := exchange_spec h
  have hworth : given.price.toNat * amount.toNat * wanted.unit.toNat = amount.toNat * given.per wanted := by
    rw [Valuation.per]
    ring
  rw [hworth] at hresult
  rw [hresult]
  exact ⟨Nat.div_mul_le_self _ _, Nat.lt_mul_of_div_lt (Nat.lt_succ_self _) hpos⟩

/-! ## Both directions -/

section Worth

variable {x y offered base balance worth bonus one : Nat}

/-- An offer is worth `base` units, rounded down, and they are seized with the bonus, rounded half up: that is half a
unit too much at most, and too little by less than one unit with its bonus and half a unit. -/
theorem seized_worth (hone : 0 < one) (hbonus : 0 < bonus) (hle : base * y ≤ offered * x)
    (hlt : offered * x < (base + 1) * y) :
    2 * one * halfUp (base * bonus) one * y ≤ 2 * offered * bonus * x + one * y ∧
      2 * offered * bonus * x < 2 * one * halfUp (base * bonus) one * y + 2 * bonus * y + one * y := by
  have hupper := two_mul_halfUp_le (base * bonus) hone
  have hlower := lt_two_mul_halfUp (base * bonus) hone
  generalize halfUp (base * bonus) one = seized at *
  constructor
  · calc 2 * one * seized * y = 2 * (seized * one) * y := by ring
      _ ≤ (2 * (base * bonus) + one) * y := Nat.mul_le_mul_right y hupper
      _ = 2 * bonus * (base * y) + one * y := by ring
      _ ≤ 2 * bonus * (offered * x) + one * y := by gcongr
      _ = 2 * offered * bonus * x + one * y := by ring
  · calc 2 * offered * bonus * x = 2 * bonus * (offered * x) := by ring
      _ < 2 * bonus * ((base + 1) * y) := Nat.mul_lt_mul_of_pos_left hlt (by omega)
      _ = 2 * (base * bonus) * y + 2 * bonus * y := by ring
      _ ≤ (2 * (seized * one) + one) * y + 2 * bonus * y := by gcongr
      _ = 2 * one * seized * y + 2 * bonus * y + one * y := by ring

/-- A balance is worth `worth` units, rounded down, and it covers that without the bonus, rounded half up: that is too
little debt by less than one unit and half a unit with the bonus, and half a unit with the bonus too much at most. -/
theorem covered_worth (hone : 0 < one) (hbonus : 0 < bonus) (hle : worth * x ≤ balance * y)
    (hlt : balance * y < (worth + 1) * x) :
    2 * one * balance * y < (2 * halfUp (worth * one) bonus * bonus + 2 * one + bonus) * x ∧
      2 * halfUp (worth * one) bonus * bonus * x ≤ 2 * one * balance * y + bonus * x := by
  have hupper := two_mul_halfUp_le (worth * one) hbonus
  have hlower := lt_two_mul_halfUp (worth * one) hbonus
  generalize halfUp (worth * one) bonus = covered at *
  constructor
  · calc 2 * one * balance * y = 2 * one * (balance * y) := by ring
      _ < 2 * one * ((worth + 1) * x) := Nat.mul_lt_mul_of_pos_left hlt (by omega)
      _ = (2 * (worth * one) + 2 * one) * x := by ring
      _ ≤ (2 * (covered * bonus) + bonus + 2 * one) * x := by gcongr
      _ = (2 * covered * bonus + 2 * one + bonus) * x := by ring
  · calc 2 * covered * bonus * x = 2 * (covered * bonus) * x := by ring
      _ ≤ (2 * (worth * one) + bonus) * x := Nat.mul_le_mul_right x hupper
      _ = 2 * one * (worth * x) + bonus * x := by ring
      _ ≤ 2 * one * (balance * y) + bonus * x := by gcongr
      _ = 2 * one * balance * y + bonus * x := by ring

end Worth

/-! ## The quote -/

/-- the collateral is worth the debt with the bonus: half a unit too much at most, and too little by less than one unit
with its bonus and half a unit -/
structure Seizure.FairForOffer (debt collateral : Valuation) (bonus : Nat) (s : Seizure) : Prop where
  seized_le : 2 * hundredPercent * s.collateral.toNat * collateral.per debt ≤
    2 * s.debt.toNat * bonus * debt.per collateral + hundredPercent * collateral.per debt
  covered_lt : 2 * s.debt.toNat * bonus * debt.per collateral <
    2 * hundredPercent * s.collateral.toNat * collateral.per debt + 2 * bonus * collateral.per debt +
      hundredPercent * collateral.per debt

/-- the debt with the bonus is worth the collateral: too little by less than a unit and half a unit with its bonus, and
half a unit with its bonus too much at most -/
structure Seizure.FairForBalance (debt collateral : Valuation) (bonus : Nat) (s : Seizure) : Prop where
  seized_lt : 2 * hundredPercent * s.collateral.toNat * collateral.per debt <
    (2 * s.debt.toNat * bonus + 2 * hundredPercent + bonus) * debt.per collateral
  covered_le : 2 * s.debt.toNat * bonus * debt.per collateral ≤
    2 * hundredPercent * s.collateral.toNat * collateral.per debt + bonus * debt.per collateral

/-- the collateral that is taken and the debt that is covered -/
def Amounts.seizure (amounts : Amounts) : Seizure := ⟨amounts.totalCollateral, amounts.debtToCover⟩

variable {offered balance base wanted : UInt256} {debt collateral : Valuation} {bonus fee : Nat}

/-- the worth of an offer with the bonus is more than the balance -/
def Capped (offered balance : UInt256) (debt collateral : Valuation) (bonus : Nat) : Prop :=
  ∃ base, exchange offered debt collateral = .ok base ∧ ∃ wanted, base.percentMul bonus = .ok wanted ∧ balance < wanted

instance : Decidable (Capped offered balance debt collateral bonus) :=
  inferInstanceAs (Decidable (∃ base, exchange offered debt collateral = .ok base ∧
    ∃ wanted, base.percentMul bonus = .ok wanted ∧ balance < wanted))

/-- the amounts fit the offer and the balance, the fee is a part of the bonus, and the price is fair -/
structure Amounts.Fair (amounts : Amounts) (offered balance : UInt256) (debt collateral : Valuation) (bonus : Nat) :
    Prop where
  covered_le : amounts.debtToCover ≤ offered
  fee_le : amounts.protocolFee ≤ amounts.bonusCollateral
  bonus_le : amounts.bonusCollateral ≤ amounts.totalCollateral
  seized_le : amounts.totalCollateral ≤ balance
  uncapped : ¬ Capped offered balance debt collateral bonus → amounts.seizure.FairForOffer debt collateral bonus
  capped : Capped offered balance debt collateral bonus →
    amounts.totalCollateral = balance ∧ amounts.seizure.FairForBalance debt collateral bonus

theorem seizure_uncapped {seizure : Seizure} (hbonus : 0 < bonus) (hb : exchange offered debt collateral = .ok base)
    (hw : base.percentMul bonus = .ok wanted)
    (h : Seizure.of offered wanted balance debt collateral bonus = .ok seizure) (hle : ¬ balance < wanted) :
    seizure.FairForOffer debt collateral bonus := by
  unfold Seizure.of at h
  rw [if_neg hle] at h
  cases h
  obtain ⟨hbase, hlost⟩ := exchange_bounds hb
  obtain ⟨hseized, hcovered⟩ := seized_worth (by decide : 0 < hundredPercent) hbonus hbase hlost
  rw [← toNat_percentMul hw] at hseized hcovered
  exact ⟨hseized, hcovered⟩

theorem seizure_capped {seizure : Seizure} (hbonus : 0 < bonus)
    (h : Seizure.of offered wanted balance debt collateral bonus = .ok seizure) (hlt : balance < wanted) :
    seizure.collateral = balance ∧ seizure.FairForBalance debt collateral bonus := by
  unfold Seizure.of at h
  rw [if_pos hlt] at h
  simp only [bind_eq_ok] at h
  obtain ⟨worth, hworth, covered, hc, h⟩ := h
  cases h
  obtain ⟨hbase, hlost⟩ := exchange_bounds hworth
  obtain ⟨hseized, hcovered⟩ := covered_worth (by decide : 0 < hundredPercent) hbonus hbase hlost
  rw [← toNat_percentDiv hc] at hseized hcovered
  exact ⟨rfl, hseized, hcovered⟩

/-- **A quote fails only when a number grows too large, and its amounts are fair in both directions.** -/
theorem quote_fair (hdu : debt.unit ≠ 0) (hcp : collateral.price ≠ 0) (hcu : collateral.unit ≠ 0)
    (hbonus : hundredPercent ≤ bonus) (hfee : fee ≤ hundredPercent) :
    FailsOnly (· = .overflow) (quote offered balance debt collateral bonus fee) ∧
      ∀ amounts, quote offered balance debt collateral bonus fee = .ok amounts →
        amounts.Fair offered balance debt collateral bonus := by
  have hpos : 0 < bonus := Nat.lt_of_lt_of_le (by decide) hbonus
  refine ⟨failsOnly_quote (S := (· = .overflow)) rfl (fun h0 => absurd (eq_zero_iff.2 h0) hcp) (mt eq_zero_iff.2 hdu)
    (mt eq_zero_iff.2 hcu) hbonus hfee offered balance, fun amounts h => ?_⟩
  have hfit := quote_bounds hpos h
  simp only [quote, bind_eq_ok] at h
  obtain ⟨base, hb, wanted, hw, seizure, hs, _, _, bonusCollateral, hbonusCollateral, protocolFee, hf, _, _, h⟩ := h
  cases h
  refine ⟨hfit.debt, ?_, ?_, hfit.collateral, ?_, ?_⟩
  · rw [le_iff]
    dsimp only
    rw [toNat_percentMul hf]
    exact halfUp_mul_le (by decide) _ hfee
  · rw [sub_eq_ok] at hbonusCollateral
    rw [le_iff]
    dsimp only
    omega
  · intro hn
    exact seizure_uncapped hpos hb hw hs fun hlt => hn ⟨base, hb, wanted, hw, hlt⟩
  · rintro ⟨base', hb', wanted', hw', hlt⟩
    obtain rfl : base' = base := Except.ok.inj (hb'.symm.trans hb)
    obtain rfl : wanted' = wanted := Except.ok.inj (hw'.symm.trans hw)
    exact seizure_capped hpos hs hlt

/-- a token with six decimals at a price of 1 -/
def Sample.cheap : Valuation := ⟨1, 1000000⟩

/-- a token with eighteen decimals at a price of 2000 -/
def Sample.dear : Valuation := ⟨2000, ⟨wad, by decide⟩⟩

/-- from a borrower with one dear token, an offer of 300 cheap ones takes a part of it and one of 3000 takes it whole -/
theorem quote_fair_tokens :
    (∃ amounts, quote 300000000 Sample.dear.unit Sample.cheap Sample.dear 10500 1000 = .ok amounts ∧
      amounts.seizure.FairForOffer Sample.cheap Sample.dear 10500) ∧
    ∃ amounts, quote 3000000000 Sample.dear.unit Sample.cheap Sample.dear 10500 1000 = .ok amounts ∧
      amounts.totalCollateral = Sample.dear.unit ∧ amounts.seizure.FairForBalance Sample.cheap Sample.dear 10500 := by
  have hfair (offered : UInt256) :
      ∀ amounts, quote offered Sample.dear.unit Sample.cheap Sample.dear 10500 1000 = .ok amounts →
        amounts.Fair offered Sample.dear.unit Sample.cheap Sample.dear 10500 :=
    (quote_fair (by decide) (by decide) (by decide) (by decide) (by decide)).2
  obtain ⟨small, hsmall, hpart⟩ :
      ∃ amounts, quote 300000000 Sample.dear.unit Sample.cheap Sample.dear 10500 1000 = .ok amounts ∧
        ¬ Capped 300000000 Sample.dear.unit Sample.cheap Sample.dear 10500 := by
    decide +kernel
  obtain ⟨large, hlarge, hwhole⟩ :
      ∃ amounts, quote 3000000000 Sample.dear.unit Sample.cheap Sample.dear 10500 1000 = .ok amounts ∧
        Capped 3000000000 Sample.dear.unit Sample.cheap Sample.dear 10500 := by
    decide +kernel
  exact ⟨⟨small, hsmall, (hfair _ small hsmall).uncapped hpart⟩, large, hlarge, (hfair _ large hlarge).capped hwhole⟩

end Lending.Liquidation
