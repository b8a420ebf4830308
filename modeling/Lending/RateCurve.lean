/-
The interest rates of a market as a function of its balances.

A `RateCurve` rises from a base rate with one slope up to the optimal usage and with a second slope above it. `Usage` is
how much of a market is lent out, counted against the underlying it holds (`borrow`) and against its whole supply with
the unbacked part (`supply`). `RateCurve.rates` evaluates the curve and shares what borrowers pay among suppliers.
-/
import Lending.StableRate

namespace Lending

/-- the shape of a market's interest rates; ratios and rates are rays -/
structure RateCurve where
  /-- the borrow usage at which the curve bends -/
  optimalUsage : UInt256
  /-- the variable rate at zero usage -/
  baseVariable : UInt256
  /-- the rise of the variable rate up to the bend -/
  variableSlope1 : UInt256
  /-- the rise of the variable rate from the bend to full usage -/
  variableSlope2 : UInt256
  /-- the rise of the stable rate up to the bend -/
  stableSlope1 : UInt256
  /-- the rise of the stable rate from the bend to full usage -/
  stableSlope2 : UInt256
  /-- what the stable rate at zero usage adds to the first variable slope -/
  stableOffset : UInt256
  /-- what a debt that is wholly stable adds to the stable rate -/
  stableExcessOffset : UInt256
  /-- the stable share of the debt above which that excess applies -/
  optimalStableShare : UInt256
  deriving DecidableEq, Repr

/-- the balances of a market that its rates depend on -/
structure Balances where
  stableDebt : UInt256
  variableDebt : UInt256
  averageStableRate : UInt256
  available : UInt256
  unbacked : UInt256
  /-- the share of interest kept back from suppliers, in basis points -/
  reserveFactor : Nat
  deriving DecidableEq, Repr

/-- the debt as a part of a market, in rays -/
structure Usage where
  /-- against available underlying plus debt -/
  borrow : UInt256
  /-- against available underlying plus debt plus unbacked supply -/
  supply : UInt256
  deriving DecidableEq, Repr

/-- the rates of a market, in rays per year, and the usage they were computed at -/
structure InterestRates where
  liquidityRate : UInt256
  stableRate : UInt256
  variableRate : UInt256
  usage : Usage
  deriving DecidableEq, Repr

/-- the usage of a market; without debt there is none -/
def Usage.of (debt available unbacked : UInt256) : Checked Usage :=
  if debt = 0 then return ⟨0, 0⟩
  else do
    let backed ← available.add debt
    let borrow ← debt.rayDiv backed
    let whole ← backed.add unbacked
    let supply ← debt.rayDiv whole
    require (supply ≤ borrow) .invariantViolation
    return ⟨borrow, supply⟩

/-- the average rate that all borrowers of a market pay, each kind of debt weighing by its size -/
def overallRate (stableDebt variableDebt variableRate averageStableRate : UInt256) : Checked UInt256 :=
  blendedRate variableDebt variableRate stableDebt averageStableRate

/-- the stable part of `debt`, in rays; without debt there is none -/
def Balances.stableShare (balances : Balances) (debt : UInt256) : Checked UInt256 :=
  if debt = 0 then return 0 else balances.stableDebt.rayDiv debt

namespace RateCurve

/-- the stable rate at zero usage -/
def baseStable (curve : RateCurve) : Checked UInt256 := curve.variableSlope1.add curve.stableOffset

/-- the span of usage above the bend; it goes around on a curve whose bend is above one -/
def excessUsageSpan (curve : RateCurve) : UInt256 := UInt256.oneRay.wrapSub curve.optimalUsage

/-- the span of the stable share above the optimal one; it goes around when that is above one -/
def excessStableSpan (curve : RateCurve) : UInt256 := UInt256.oneRay.wrapSub curve.optimalStableShare

/-- how far a rate with these two slopes stands above its base at `usage`: a part of the first slope up to the bend,
all of it and a part of the second above -/
def rise (curve : RateCurve) (slope1 slope2 usage : UInt256) : Checked UInt256 :=
  if curve.optimalUsage < usage then do
    let excess ← (usage.monus curve.optimalUsage).rayDiv curve.excessUsageSpan
    let steep ← slope2.rayMul excess
    slope1.add steep
  else do
    let part ← slope1.rayMul usage
    part.rayDiv curve.optimalUsage

/-- what the stable rate adds when the stable share of the debt is above the optimal one -/
def stablePremium (curve : RateCurve) (share : UInt256) : Checked UInt256 :=
  if curve.optimalStableShare < share then do
    let excess ← (share.monus curve.optimalStableShare).rayDiv curve.excessStableSpan
    curve.stableExcessOffset.rayMul excess
  else return 0

/-- the rates of a market with these balances. Suppliers earn the overall borrow rate in proportion to the supply usage,
less the reserve factor, which must not exceed one hundred percent. -/
def rates (curve : RateCurve) (balances : Balances) : Checked InterestRates := do
  let debt ← balances.stableDebt.add balances.variableDebt
  let usage ← Usage.of debt balances.available balances.unbacked
  let share ← balances.stableShare debt
  let stableBase ← curve.baseStable
  let stableRise ← curve.rise curve.stableSlope1 curve.stableSlope2 usage.borrow
  let stableRate ← stableBase.add stableRise
  let variableRise ← curve.rise curve.variableSlope1 curve.variableSlope2 usage.borrow
  let variableRate ← curve.baseVariable.add variableRise
  let premium ← curve.stablePremium share
  let stableRate ← stableRate.add premium
  let paid ← overallRate balances.stableDebt balances.variableDebt variableRate balances.averageStableRate
  let earned ← paid.rayMul usage.supply
  require (balances.reserveFactor ≤ hundredPercent) .invalidConfig
  let liquidityRate ← earned.percentMul (hundredPercent - balances.reserveFactor)
  return { liquidityRate, stableRate, variableRate, usage }

end RateCurve

end Lending
