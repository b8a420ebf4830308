/-
How much collateral a liquidation seizes for the debt it repays, and how the seized collateral is shared.

The collateral is worth the debt times the bonus. When the borrower holds less than that, the whole balance is seized
and the debt repaid shrinks to what the balance pays for. The treasury takes its fee out of the bonus.
-/
import Lending.FixedPoint

namespace Lending

/-- the quotient of two products, rounded down; the numerator is looked at first, then the denominator -/
def UInt256.quotient (numerators denominators : List UInt256) : Checked UInt256 := do
  let numerator ← UInt256.product numerators
  let denominator ← UInt256.product denominators
  require (denominator ≠ 0) .divisionByZero
  return numerator.divNat denominator.toNat

namespace Liquidation

/-- an asset as a liquidation sees it: its price and the number of its units in one whole token -/
structure Valuation where
  price : UInt256
  unit : UInt256
  deriving DecidableEq, Repr

/-- the amounts that a liquidation moves -/
structure Amounts where
  /-- the collateral worth exactly the debt offered -/
  baseCollateral : UInt256
  /-- the collateral taken from the borrower, with the bonus -/
  totalCollateral : UInt256
  /-- the part of it that is bonus -/
  bonusCollateral : UInt256
  /-- the part of the bonus that goes to the treasury -/
  protocolFee : UInt256
  /-- what the liquidator receives -/
  liquidatorCollateral : UInt256
  /-- the debt that is repaid -/
  debtToCover : UInt256
  deriving DecidableEq, Repr

/-- what `amount` of one asset is worth in another, rounded down -/
def exchange (amount : UInt256) (given wanted : Valuation) : Checked UInt256 :=
  UInt256.quotient [given.price, amount, wanted.unit] [wanted.price, given.unit]

/-- collateral and the debt it is seized for -/
structure Seizure where
  collateral : UInt256
  debt : UInt256
  deriving DecidableEq, Repr

/-- the seizure for an offer to repay `offered`, whose worth with the bonus is `wanted`, from a borrower who holds
`balance`: as offered when the balance reaches, and otherwise the balance and the debt it pays for -/
def Seizure.of (offered wanted balance : UInt256) (debt collateral : Valuation) (bonus : Nat) : Checked Seizure :=
  if balance < wanted then do
    let worth ← exchange balance collateral debt
    let covered ← worth.percentDiv bonus
    return ⟨balance, covered⟩
  else return ⟨wanted, offered⟩

/-- the amounts of a liquidation that offers to repay `offered` of the debt of a borrower who holds `balance` of the
collateral, at `bonus` and with the treasury's `fee` on the bonus, both in basis points -/
def quote (offered balance : UInt256) (debt collateral : Valuation) (bonus fee : Nat) : Checked Amounts := do
  let baseCollateral ← exchange offered debt collateral
  let wanted ← baseCollateral.percentMul bonus
  let seizure ← Seizure.of offered wanted balance debt collateral bonus
  let withoutBonus ← seizure.collateral.percentDiv bonus
  let bonusCollateral ← seizure.collateral.sub withoutBonus
  let protocolFee ← bonusCollateral.percentMul fee
  let liquidatorCollateral ← seizure.collateral.sub protocolFee
  return { baseCollateral, totalCollateral := seizure.collateral, bonusCollateral, protocolFee, liquidatorCollateral,
           debtToCover := seizure.debt }

end Liquidation

end Lending
