/-
The settings of a market and of the pool, and which of them are accepted when a market is listed or a pool is opened.
Percentages are basis points.
-/
import Lending.Address
import Lending.RateCurve

namespace Lending

/-- the settings of one market -/
structure ReserveConfig where
  curve : RateCurve
  /-- the collateral a liquidator receives for the worth of one hundred percent -/
  liquidationBonus : Nat
  /-- the share of the bonus that goes to the treasury -/
  liquidationProtocolFee : Nat
  /-- the largest unbacked supply, in whole tokens -/
  unbackedMintCap : Nat
  deriving DecidableEq, Repr

/-- ratios are at most one, usage bends above zero, the bonus is at least and the fee at most one hundred percent -/
structure ReserveConfig.Valid (config : ReserveConfig) : Prop where
  bend_pos : config.curve.optimalUsage ≠ 0
  bend_le : config.curve.optimalUsage.toNat ≤ ray
  share_le : config.curve.optimalStableShare.toNat ≤ ray
  le_bonus : hundredPercent ≤ config.liquidationBonus
  fee_le : config.liquidationProtocolFee ≤ hundredPercent

theorem ReserveConfig.valid_iff (config : ReserveConfig) :
    config.Valid ↔ config.curve.optimalUsage ≠ 0 ∧ config.curve.optimalUsage.toNat ≤ ray ∧
      config.curve.optimalStableShare.toNat ≤ ray ∧ hundredPercent ≤ config.liquidationBonus ∧
      config.liquidationProtocolFee ≤ hundredPercent :=
  ⟨fun h => ⟨h.bend_pos, h.bend_le, h.share_le, h.le_bonus, h.fee_le⟩,
   fun ⟨hpos, hbend, hshare, hbonus, hfee⟩ => ⟨hpos, hbend, hshare, hbonus, hfee⟩⟩

instance (config : ReserveConfig) : Decidable config.Valid := decidable_of_iff' _ config.valid_iff

/-- refuses settings that are not valid -/
def ReserveConfig.validate (config : ReserveConfig) : Checked Unit := require config.Valid .invalidConfig

/-- the settings of the whole pool -/
structure PoolConfig where
  treasury : Address
  /-- the premium on a flash loan -/
  flashPremium : Nat
  /-- the share of that premium that goes to the treasury -/
  flashPremiumToTreasury : Nat
  /-- the share of a backing fee that goes to the treasury -/
  backingFeeToTreasury : Nat
  deriving DecidableEq, Repr

/-- every percentage is at most one hundred percent -/
structure PoolConfig.Valid (config : PoolConfig) : Prop where
  premium_le : config.flashPremium ≤ hundredPercent
  premiumShare_le : config.flashPremiumToTreasury ≤ hundredPercent
  feeShare_le : config.backingFeeToTreasury ≤ hundredPercent

theorem PoolConfig.valid_iff (config : PoolConfig) :
    config.Valid ↔ config.flashPremium ≤ hundredPercent ∧ config.flashPremiumToTreasury ≤ hundredPercent ∧
      config.backingFeeToTreasury ≤ hundredPercent :=
  ⟨fun h => ⟨h.premium_le, h.premiumShare_le, h.feeShare_le⟩,
   fun ⟨hpremium, hpremiumShare, hfeeShare⟩ => ⟨hpremium, hpremiumShare, hfeeShare⟩⟩

instance (config : PoolConfig) : Decidable config.Valid := decidable_of_iff' _ config.valid_iff

/-- refuses settings that are not valid -/
def PoolConfig.validate (config : PoolConfig) : Checked Unit := require config.Valid .invalidConfig

end Lending
