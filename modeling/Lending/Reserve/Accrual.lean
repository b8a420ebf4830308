/-
Bringing a reserve up to a later time.

The indices grow by the rates in force since the last update, and the stable debt from its principal. The treasury is
credited with its share of the interest that borrowers owe for the time that has passed.
-/
import Lending.Reserve.Basic

namespace Lending.Reserve

/-- the debt index at `now`; it stands still while there is no variable debt -/
def debtIndexNow (reserve : Reserve) (now : Nat) : Checked UInt256 :=
  if reserve.scaledVariableDebt = 0 then return reserve.debtIndex
  else debtIndexAt reserve.rates.variableRate reserve.debtIndex reserve.lastUpdate now

/-- the stable debt with interest up to `now` -/
def stableDebtNow (reserve : Reserve) (now : Nat) : Checked UInt256 :=
  stableDebtAt reserve.principalStableDebt reserve.averageStableRate reserve.stableDebtUpdated now

/-- the treasury's scaled supply after a credit of `amount` at `index`; a credit of nothing changes nothing -/
def creditAt (reserve : Reserve) (amount index : UInt256) : Checked UInt256 :=
  if amount = 0 then return reserve.treasuryScaled
  else do
    let scaled ← amount.rayDiv index
    reserve.treasuryScaled.add scaled

/-- the reserve at a time strictly after its last update -/
def advance (reserve : Reserve) (now : Nat) : Checked Reserve := do
  let liquidityIndex ← supplyIndexAt reserve.rates.liquidityRate reserve.liquidityIndex reserve.lastUpdate now
  let debtIndex ← reserve.debtIndexNow now
  let variableBefore ← reserve.scaledVariableDebt.rayMul reserve.debtIndex
  let totalVariableDebt ← reserve.scaledVariableDebt.rayMul debtIndex
  let stableBefore ← reserve.stableDebtNow reserve.lastUpdate
  let totalStableDebt ← reserve.stableDebtNow now
  let owed ← totalVariableDebt.add totalStableDebt
  let owedBefore ← variableBefore.add stableBefore
  let interest ← owed.sub owedBefore
  let share ← interest.percentMul reserve.listing.reserveFactor
  let treasuryScaled ← reserve.creditAt share liquidityIndex
  return { reserve with
    liquidityIndex, debtIndex, totalVariableDebt, totalStableDebt, treasuryScaled, lastUpdate := now }

/-- the reserve at `now`: a time before its last update is refused, and at the very time nothing changes -/
def accrue (reserve : Reserve) (now : Nat) : Checked Reserve := do
  require (reserve.lastUpdate ≤ now) .badRequest
  if now = reserve.lastUpdate then return reserve else reserve.advance now

end Lending.Reserve
