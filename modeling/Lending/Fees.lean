/-
Lump sums that users pay to a market, and how each is split between the treasury and the suppliers.

The treasury's part is rounded half up and the suppliers get the rest, so the two parts always make up the whole.
-/
import Lending.FixedPoint

namespace Lending

/-- a lump sum and its two parts -/
structure SplitFee where
  total : UInt256
  toTreasury : UInt256
  toSuppliers : UInt256
  deriving DecidableEq, Repr

/-- `total` with the share of `share` basis points set apart for the treasury -/
def SplitFee.of (total : UInt256) (share : Nat) : Checked SplitFee := do
  let toTreasury ← total.percentMul share
  let toSuppliers ← total.sub toTreasury
  return { total, toTreasury, toSuppliers }

theorem SplitFee.total_eq {total : UInt256} {share : Nat} {fee : SplitFee} (h : SplitFee.of total share = .ok fee) :
    fee.total = total := by
  obtain ⟨_, _, h⟩ := bind_eq_ok.1 h
  obtain ⟨_, _, h⟩ := bind_eq_ok.1 h
  cases h
  rfl

/-- the parts of a split fee make up the whole -/
theorem SplitFee.toTreasury_add_toSuppliers {total : UInt256} {share : Nat} {fee : SplitFee}
    (h : SplitFee.of total share = .ok fee) : fee.toTreasury.toNat + fee.toSuppliers.toNat = fee.total.toNat := by
  obtain ⟨treasury, _, h⟩ := bind_eq_ok.1 h
  obtain ⟨suppliers, hs, h⟩ := bind_eq_ok.1 h
  cases h
  have := UInt256.sub_eq_ok.1 hs
  show treasury.toNat + suppliers.toNat = total.toNat
  omega

/-- the premium on a flash loan of `amount`, charged at `premium` basis points and split at `share` -/
def flashLoanPremium (amount : UInt256) (premium share : Nat) : Checked SplitFee := do
  let total ← amount.percentMul premium
  SplitFee.of total share

end Lending
