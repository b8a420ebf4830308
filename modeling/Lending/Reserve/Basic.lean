/-
A reserve: the market of one asset, with its indices, rates, debts and liquidity.

Supply and variable debt are stored scaled, that is divided by an index; multiplying by the index of the moment gives
the balance with interest. Stable debt is stored as the principal of its last change, with the average rate it grows at.
-/
import Lending.Address
import Lending.Growth
import Lending.RateCurve

namespace Lending

/-- what is fixed about an asset when its market is listed -/
structure Listing where
  asset : Address
  symbol : String
  decimals : Nat
  /-- the share of interest that goes to the treasury, in basis points -/
  reserveFactor : Nat
  deriving DecidableEq, Repr

/-- the units in one whole token, `10 ^ decimals`; 77 decimals are the most that fit -/
def Listing.unit (listing : Listing) : Checked UInt256 :=
  if listing.decimals < 78 then UInt256.fit (Nat.pow 10 listing.decimals) else .error .overflow

theorem Listing.unit_eq_ok {listing : Listing} {u : UInt256} :
    listing.unit = .ok u ↔ u.toNat = Nat.pow 10 listing.decimals := by
  unfold Listing.unit
  split
  · exact UInt256.fit_eq_ok
  · next h =>
    refine ⟨nofun, fun e => absurd (e ▸ u.toNat_lt) (Nat.not_lt.2 ?_)⟩
    calc Nat.pow 2 256 ≤ Nat.pow 10 78 := by decide
      _ ≤ Nat.pow 10 listing.decimals := Nat.pow_le_pow_right (by decide) (Nat.not_lt.1 h)

/-- the market of one asset -/
structure Reserve where
  listing : Listing
  /-- how far supply has grown since the listing, in rays -/
  liquidityIndex : UInt256
  /-- how far variable debt has grown since the listing, in rays -/
  debtIndex : UInt256
  /-- the rates and the usage as of the last update of the rates -/
  rates : InterestRates
  /-- the average rate of the stable debt -/
  averageStableRate : UInt256
  /-- the stable debt with interest up to `lastUpdate` -/
  totalStableDebt : UInt256
  /-- the stable debt as of `stableDebtUpdated` -/
  principalStableDebt : UInt256
  scaledVariableDebt : UInt256
  /-- the scaled variable debt times the debt index -/
  totalVariableDebt : UInt256
  /-- the underlying the market holds -/
  available : UInt256
  /-- the available liquidity with the unbacked supply -/
  totalLiquidity : UInt256
  /-- supply that was minted without underlying and not yet backed -/
  unbacked : UInt256
  /-- the treasury's supply that was not yet minted, scaled -/
  treasuryScaled : UInt256
  /-- the supply of all users, scaled -/
  scaledSupply : UInt256
  lastUpdate : Nat
  stableDebtUpdated : Nat
  deriving DecidableEq, Repr

namespace Reserve

/-- the asset of the market -/
def asset (reserve : Reserve) : Address := reserve.listing.asset

/-- a market just listed: nothing supplied, nothing owed, both indices at one -/
def opened (listing : Listing) (now : Nat) : Reserve where
  listing := listing
  liquidityIndex := UInt256.oneRay
  debtIndex := UInt256.oneRay
  rates := ⟨0, 0, 0, ⟨0, 0⟩⟩
  averageStableRate := 0
  totalStableDebt := 0
  principalStableDebt := 0
  scaledVariableDebt := 0
  totalVariableDebt := 0
  available := 0
  totalLiquidity := 0
  unbacked := 0
  treasuryScaled := 0
  scaledSupply := 0
  lastUpdate := now
  stableDebtUpdated := now

/-- the debt of the market, of both kinds -/
def totalDebt (reserve : Reserve) : Checked UInt256 := reserve.totalStableDebt.add reserve.totalVariableDebt

/-- what the market owes to suppliers and to the treasury -/
def totalSupply (reserve : Reserve) : Checked UInt256 := do
  let users ← reserve.scaledSupply.rayMul reserve.liquidityIndex
  let treasury ← reserve.treasuryScaled.rayMul reserve.liquidityIndex
  users.add treasury

/-- what supply worth `amount` is, scaled -/
def scaleSupply (reserve : Reserve) (amount : UInt256) : Checked UInt256 := amount.rayDiv reserve.liquidityIndex

/-- what variable debt worth `amount` is, scaled -/
def scaleDebt (reserve : Reserve) (amount : UInt256) : Checked UInt256 := amount.rayDiv reserve.debtIndex

/-- the balances the rate curve is evaluated at -/
def balances (reserve : Reserve) : Balances where
  stableDebt := reserve.totalStableDebt
  variableDebt := reserve.totalVariableDebt
  averageStableRate := reserve.averageStableRate
  available := reserve.available
  unbacked := reserve.unbacked
  reserveFactor := reserve.listing.reserveFactor

end Reserve

end Lending
