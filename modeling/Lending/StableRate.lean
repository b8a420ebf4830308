/-
The debt-weighted stable rate: how an average moves when debt joins it or leaves it.

Each part of a debt weighs its rate by its size. The weights are taken in rays, with the debts scaled up from wads, so
debts of any number of decimals are treated alike.
-/
import Lending.FixedPoint

namespace Lending

/-- the weight of `debt` carried at `rate` -/
def rateWeight (debt rate : UInt256) : Checked UInt256 := do
  let scaled ← debt.wadToRay
  rate.rayMul scaled

/-- the average rate of two parts of a debt, the first carried at `rate` and the second at `otherRate` -/
def blendedRate (debt rate other otherRate : UInt256) : Checked UInt256 := do
  let total ← debt.add other
  if total = 0 then return 0
  else
    let first ← rateWeight debt rate
    let second ← rateWeight other otherRate
    let weight ← first.add second
    let scaled ← total.wadToRay
    weight.rayDiv scaled

/-- a debt and the average rate it is carried at -/
structure AveragedDebt where
  debt : UInt256
  rate : UInt256
  deriving DecidableEq, Repr

/-- what is left of an averaged debt after `amount`, carried at `rate`, is taken out. Neither the debt nor its weight goes
below zero: a part that is at least as large as the whole, or at least as heavy, clears the debt and the rate. -/
def AveragedDebt.remove (whole : AveragedDebt) (amount rate : UInt256) : Checked AveragedDebt :=
  if whole.debt ≤ amount then return ⟨0, 0⟩
  else do
    let rest := whole.debt.monus amount
    let weight ← rateWeight whole.debt whole.rate
    let removed ← rateWeight amount rate
    if weight ≤ removed then return ⟨0, 0⟩
    else
      let scaled ← rest.wadToRay
      let average ← (weight.monus removed).rayDiv scaled
      return ⟨rest, average⟩

end Lending
