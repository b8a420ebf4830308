/-
How the amounts of a quote add up.

What is seized is shared between the liquidator and the treasury without remainder, whatever limits it. The bonus is
what remains of it when the bonus is divided out, and that division undoes the multiplication exactly as long as the
offer is met in full. The base, however, is what the whole offer is worth. When the balance limits the seizure, the debt
shrinks and the base does not, so that base and bonus together say more than what is seized.

Results:
- `quote_splits`: the seizure is made up of the bonus and of a part without the bonus;
- `Amounts.Seizes.free_le`, `Amounts.Seizes.free_eq`: that part is at most the base, and it is the base when the offer
  is met in full;
- `quote_adds_up`: the shares always make up the seizure; base and bonus do when the offer is met in full, and otherwise
  only if the balance is short of it by no more than half a unit with its bonus;
- `quote_base_too_large`: a balance of 21 for an offer worth 50 without the bonus.
-/
import Lending.Proofs.Pricing
import Lending.Sample

namespace Lending.Liquidation

open UInt256

variable {offered balance free : UInt256} {debt collateral : Valuation} {bonus fee : Nat} {amounts : Amounts}

/-! ## What a quote is made of -/

/-- the seizure is made up of the bonus and of `free`, which is without it -/
structure Amounts.Splits (amounts : Amounts) (bonus : Nat) (free : UInt256) : Prop where
  divided : amounts.totalCollateral.percentDiv bonus = .ok free
  sum : free.toNat + amounts.bonusCollateral.toNat = amounts.totalCollateral.toNat

/-- the base is what the offer is worth; the seizure is that with the bonus, or the balance if it is less -/
structure Amounts.Seizes (amounts : Amounts) (offered balance : UInt256) (debt collateral : Valuation) (bonus : Nat) :
    Prop where
  base : exchange offered debt collateral = .ok amounts.baseCollateral
  total : ∃ wanted, amounts.baseCollateral.percentMul bonus = .ok wanted ∧
    amounts.totalCollateral = if balance < wanted then balance else wanted

theorem quote_splits (h : quote offered balance debt collateral bonus fee = .ok amounts) :
    ∃ free, amounts.Splits bonus free := by
  simp only [quote, bind_eq_ok] at h
  obtain ⟨base, _, wanted, _, seizure, _, free, hfree, bonusCollateral, hbonus, _, _, _, _, h⟩ := h
  cases h
  obtain ⟨hle, hrest⟩ := sub_eq_ok.1 hbonus
  refine ⟨free, hfree, ?_⟩
  dsimp only
  omega

theorem Seizure.of_collateral {wanted : UInt256} {seizure : Seizure}
    (h : Seizure.of offered wanted balance debt collateral bonus = .ok seizure) :
    seizure.collateral = if balance < wanted then balance else wanted := by
  unfold Seizure.of at h
  split at h
  · next hlt =>
    simp only [bind_eq_ok] at h
    obtain ⟨_, _, _, _, h⟩ := h
    cases h
    exact (if_pos hlt).symm
  · next hle =>
    cases h
    exact (if_neg hle).symm

theorem quote_seizes (h : quote offered balance debt collateral bonus fee = .ok amounts) :
    amounts.Seizes offered balance debt collateral bonus := by
  simp only [quote, bind_eq_ok] at h
  obtain ⟨base, hbase, wanted, hwanted, seizure, hseizure, _, _, _, _, _, _, _, _, h⟩ := h
  cases h
  exact ⟨hbase, wanted, hwanted, Seizure.of_collateral hseizure⟩

/-! ## The part without the bonus -/

namespace Amounts

/-- divided out of an offer that is met in full, the bonus leaves the base -/
theorem Seizes.free_eq (h : amounts.Seizes offered balance debt collateral bonus) (hs : amounts.Splits bonus free)
    (hbonus : hundredPercent ≤ bonus) (hn : ¬ Capped offered balance debt collateral bonus) :
    free = amounts.baseCollateral := by
  obtain ⟨wanted, hwanted, htotal⟩ := h.total
  rw [if_neg fun hlt => hn ⟨_, h.base, wanted, hwanted, hlt⟩] at htotal
  apply UInt256.ext
  rw [toNat_percentDiv hs.divided, htotal, toNat_percentMul hwanted]
  exact halfUp_mul_cancel (by decide) _ hbonus

/-- a seizure of less leaves no more than the base -/
theorem Seizes.free_le (h : amounts.Seizes offered balance debt collateral bonus) (hs : amounts.Splits bonus free)
    (hbonus : hundredPercent ≤ bonus) : free ≤ amounts.baseCollateral := by
  obtain ⟨wanted, hwanted, htotal⟩ := h.total
  have hle : amounts.totalCollateral.toNat ≤ wanted.toNat := by
    rw [htotal]
    split
    · next hlt => exact Nat.le_of_lt hlt
    · exact le_rfl
  calc free.toNat = halfUp (amounts.totalCollateral.toNat * hundredPercent) bonus := toNat_percentDiv hs.divided
    _ ≤ halfUp (wanted.toNat * hundredPercent) bonus := halfUp_mono (Nat.mul_le_mul_right _ hle) _
    _ = amounts.baseCollateral.toNat := by
      rw [toNat_percentMul hwanted, halfUp_mul_cancel (by decide) _ hbonus]

theorem Seizes.total_eq (h : amounts.Seizes offered balance debt collateral bonus)
    (hc : Capped offered balance debt collateral bonus) : amounts.totalCollateral = balance := by
  obtain ⟨wanted, hwanted, htotal⟩ := h.total
  have hlt : balance < wanted := (exists_ok_iff hwanted).1 ((exists_ok_iff h.base).1 hc)
  rw [htotal, if_pos hlt]

/-- how the reported amounts add up -/
structure AddUp (amounts : Amounts) (offered balance : UInt256) (debt collateral : Valuation) (bonus : Nat) :
    Prop where
  shares : amounts.liquidatorCollateral.toNat + amounts.protocolFee.toNat = amounts.totalCollateral.toNat
  /-- the bonus is what the seizure has more than without it -/
  splits : ∃ free, amounts.Splits bonus free ∧ free ≤ amounts.baseCollateral
  uncapped : ¬ Capped offered balance debt collateral bonus →
    amounts.baseCollateral.toNat + amounts.bonusCollateral.toNat = amounts.totalCollateral.toNat
  /-- the base is the part without the bonus only if the balance falls short by half a unit with its bonus at most -/
  capped : Capped offered balance debt collateral bonus → amounts.totalCollateral = balance ∧
    (amounts.baseCollateral.toNat + amounts.bonusCollateral.toNat = amounts.totalCollateral.toNat ↔
      2 * (amounts.baseCollateral.toNat * bonus) ≤ 2 * (balance.toNat * hundredPercent) + bonus)

end Amounts

/-! ## The quote -/

/-- **The shares of a seizure make it up, and base and bonus make up a seizure that the balance does not limit.** -/
theorem quote_adds_up (hbonus : hundredPercent ≤ bonus)
    (h : quote offered balance debt collateral bonus fee = .ok amounts) :
    amounts.AddUp offered balance debt collateral bonus := by
  have hpos : 0 < bonus := Nat.lt_of_lt_of_le (by decide) hbonus
  have hseizes := quote_seizes h
  obtain ⟨free, hsplits⟩ := quote_splits h
  have hfree := hseizes.free_le hsplits hbonus
  have hsum := hsplits.sum
  refine ⟨(quote_bounds hpos h).parts, ⟨free, hsplits, hfree⟩, fun hn => ?_, fun hc => ?_⟩
  · rwa [hseizes.free_eq hsplits hbonus hn] at hsum
  · have htotal := hseizes.total_eq hc
    refine ⟨htotal, ?_⟩
    rw [← le_halfUp_iff hpos, ← htotal, ← toNat_percentDiv hsplits.divided]
    rw [le_iff] at hfree
    omega

/-- an offer of 300 cheap tokens is met in full by one dear token, and an offer of 3000 is not -/
theorem quote_adds_up_tokens :
    (∃ amounts, quote 300000000 Sample.dear.unit Sample.cheap Sample.dear 10500 1000 = .ok amounts ∧
      amounts.baseCollateral.toNat + amounts.bonusCollateral.toNat = amounts.totalCollateral.toNat) ∧
    ∃ amounts, quote 3000000000 Sample.dear.unit Sample.cheap Sample.dear 10500 1000 = .ok amounts ∧
      amounts.liquidatorCollateral.toNat + amounts.protocolFee.toNat = Sample.dear.unit.toNat ∧
      amounts.baseCollateral.toNat + amounts.bonusCollateral.toNat ≠ amounts.totalCollateral.toNat := by
  obtain ⟨small, hsmall, hpart⟩ :
      ∃ amounts, quote 300000000 Sample.dear.unit Sample.cheap Sample.dear 10500 1000 = .ok amounts ∧
        ¬ Capped 300000000 Sample.dear.unit Sample.cheap Sample.dear 10500 := by
    decide +kernel
  obtain ⟨large, hlarge, hwhole, hshort⟩ :
      ∃ amounts, quote 3000000000 Sample.dear.unit Sample.cheap Sample.dear 10500 1000 = .ok amounts ∧
        Capped 3000000000 Sample.dear.unit Sample.cheap Sample.dear 10500 ∧
        ¬ 2 * (amounts.baseCollateral.toNat * 10500) ≤ 2 * (Sample.dear.unit.toNat * hundredPercent) + 10500 := by
    decide +kernel
  have hadds := quote_adds_up (by decide : hundredPercent ≤ 10500) hlarge
  obtain ⟨htotal, hiff⟩ := hadds.capped hwhole
  exact ⟨⟨small, hsmall, (quote_adds_up (by decide) hsmall).uncapped hpart⟩,
    large, hlarge, htotal ▸ hadds.shares, mt hiff.1 hshort⟩

/-- a borrower with 21 tokens of collateral at a price of 2, and an offer of 100 tokens of debt at a price of 1: all 21
are seized, 20 of them for the debt and one as the bonus, and the base says 50 -/
theorem quote_base_too_large :
    ∃ amounts, quote (Sample.tokens 100) (Sample.tokens 21) ⟨1, Sample.tokens 1⟩ ⟨2, Sample.tokens 1⟩ 10500 1000 =
        .ok amounts ∧
      amounts.totalCollateral = Sample.tokens 21 ∧ amounts.bonusCollateral = Sample.tokens 1 ∧
      amounts.debtToCover = Sample.tokens 40 ∧ amounts.baseCollateral = Sample.tokens 50 ∧
      amounts.baseCollateral.toNat + amounts.bonusCollateral.toNat ≠ amounts.totalCollateral.toNat := by
  decide +kernel

end Lending.Liquidation
