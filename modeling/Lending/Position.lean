/-
A position: what one user holds and owes in one market, and the underlying in the user's wallet.

Like a reserve, a position stores supply and variable debt scaled and stable debt as a principal. `accrue` recomputes
the current balances from an accrued reserve; the other operations change a position that is accrued to the moment.
-/
import Lending.Reserve.Basic

namespace Lending

/-- one user's part in one market -/
structure Position where
  owner : Address
  asset : Address
  scaledSupply : UInt256
  /-- the supply with interest -/
  supply : UInt256
  /-- whether the supply counts as collateral -/
  collateral : Bool
  scaledVariableDebt : UInt256
  /-- the variable debt with interest -/
  variableDebt : UInt256
  /-- the stable debt as of `stableUpdated` -/
  principalStableDebt : UInt256
  /-- the stable debt with interest -/
  stableDebt : UInt256
  /-- the rate the stable debt is locked at -/
  stableRate : UInt256
  stableUpdated : Nat
  /-- the rate the supply earns -/
  liquidityRate : UInt256
  /-- underlying held outside the market -/
  wallet : UInt256
  deriving DecidableEq, Repr

namespace Position

/-- a position with nothing supplied and nothing owed -/
def empty (owner asset : Address) (wallet : UInt256) : Position where
  owner := owner
  asset := asset
  scaledSupply := 0
  supply := 0
  collateral := false
  scaledVariableDebt := 0
  variableDebt := 0
  principalStableDebt := 0
  stableDebt := 0
  stableRate := 0
  stableUpdated := 0
  liquidityRate := 0
  wallet := wallet

/-- nothing is supplied and nothing is owed -/
def IsEmpty (position : Position) : Prop :=
  position.scaledSupply = 0 ∧ position.scaledVariableDebt = 0 ∧ position.principalStableDebt = 0

instance (position : Position) : Decidable position.IsEmpty := inferInstanceAs (Decidable (_ ∧ _ ∧ _))

/-- the debt of both kinds, as of the last accrual -/
def totalDebt (position : Position) : Checked UInt256 := position.variableDebt.add position.stableDebt

/-- the position with its balances at `now`, given its market accrued to that time -/
def accrue (position : Position) (reserve : Reserve) (now : Nat) : Checked Position := do
  require (reserve.asset = position.asset) .badRequest
  let supply ← position.scaledSupply.rayMul reserve.liquidityIndex
  let variableDebt ← position.scaledVariableDebt.rayMul reserve.debtIndex
  let stableDebt ← stableDebtAt position.principalStableDebt position.stableRate position.stableUpdated now
  return { position with supply, variableDebt, stableDebt, liquidityRate := reserve.rates.liquidityRate }

/-! ## Supply -/

/-- the scaled supply that stands for `amount` of the balance; the whole balance stands for all of it -/
def scaledPart (amount : UInt256) (reserve : Reserve) (position : Position) : Checked UInt256 :=
  if amount = position.supply then return position.scaledSupply else reserve.scaleSupply amount

/-- adds scaled supply; the first supply of an empty balance becomes collateral -/
def addSupply (scaled : UInt256) (position : Position) : Checked Position := do
  let scaledSupply ← position.scaledSupply.add scaled
  let first := decide (position.scaledSupply = 0 ∧ scaled ≠ 0)
  return { position with scaledSupply, collateral := first || position.collateral }

/-- removes scaled supply; an emptied balance is no collateral -/
def removeSupply (scaled : UInt256) (position : Position) : Checked Position := do
  let scaledSupply ← position.scaledSupply.sub scaled
  return { position with scaledSupply, collateral := decide (scaledSupply ≠ 0) && position.collateral }

/-- sets whether the supply counts as collateral, which an empty balance cannot -/
def setCollateral (enabled : Bool) (position : Position) : Checked Position := do
  require (enabled = true → position.scaledSupply ≠ 0) .badRequest
  return { position with collateral := enabled }

/-- adds scaled supply that leaves the collateral flag as it is -/
def creditSupply (scaled : UInt256) (position : Position) : Checked Position := do
  let scaledSupply ← position.scaledSupply.add scaled
  return { position with scaledSupply }

/-! ## Debt -/

/-- the scaled debt that stands for `amount` of the variable debt; the whole debt stands for all of it -/
def scaledDebtPart (amount : UInt256) (reserve : Reserve) (position : Position) : Checked UInt256 :=
  if amount = position.variableDebt then return position.scaledVariableDebt else reserve.scaleDebt amount

/-- takes on scaled variable debt -/
def addVariableDebt (scaled : UInt256) (position : Position) : Checked Position := do
  let scaledVariableDebt ← position.scaledVariableDebt.add scaled
  return { position with scaledVariableDebt }

/-- gives up scaled variable debt -/
def removeVariableDebt (scaled : UInt256) (position : Position) : Checked Position := do
  let scaledVariableDebt ← position.scaledVariableDebt.sub scaled
  return { position with scaledVariableDebt }

/-- takes on `amount` of stable debt at `rate`, blended into the rate of the debt there is -/
def addStableDebt (amount rate : UInt256) (now : Nat) (position : Position) : Checked Position := do
  let stableRate ← blendedRate position.stableDebt position.stableRate amount rate
  let debt ← position.stableDebt.add amount
  return { position with stableRate, principalStableDebt := debt, stableDebt := debt, stableUpdated := now }

/-- gives up `amount` of stable debt; a cleared debt has no rate and no time -/
def removeStableDebt (amount : UInt256) (now : Nat) (position : Position) : Checked Position := do
  let debt ← position.stableDebt.sub amount
  if debt = 0 then
    return { position with principalStableDebt := 0, stableDebt := 0, stableRate := 0, stableUpdated := 0 }
  else return { position with principalStableDebt := debt, stableDebt := debt, stableUpdated := now }

/-! ## Wallet -/

/-- pays `amount` out of the wallet, which must hold it -/
def spend (amount : UInt256) (position : Position) : Checked Position := do
  let wallet ← UInt256.subOr .badRequest position.wallet amount
  return { position with wallet }

/-- takes `amount` into the wallet -/
def receive (amount : UInt256) (position : Position) : Checked Position := do
  let wallet ← position.wallet.add amount
  return { position with wallet }

end Position

end Lending
