/-
Borrowing from a market, paying back, and changing the kind of a debt.

All of it is built from two moves on an account that is accrued to the moment: `takeOn` adds debt of one kind to the
reserve and to the position alike, `giveUp` removes it from both.
-/
import Lending.Account.Basic

namespace Lending

/-- the two kinds of debt: at a rate locked when it is taken on, or at the rate of the moment -/
inductive RateMode where
  | stableRate
  | variableRate
  deriving DecidableEq, Repr

/-- the other kind of debt -/
def RateMode.other : RateMode → RateMode
  | stableRate => variableRate
  | variableRate => stableRate

/-- the debt of one kind, as of the last accrual -/
def Position.debt (position : Position) : RateMode → UInt256
  | .stableRate => position.stableDebt
  | .variableRate => position.variableDebt

namespace Account

/-- takes on debt worth `amount`; stable debt locks the reserve's stable rate -/
def takeOn (amount : UInt256) (now : Nat) (account : Account) : RateMode → Checked Account
  | .variableRate => do
    let scaled ← account.reserve.scaleDebt amount
    let reserve ← account.reserve.mintVariableDebt scaled
    let position ← account.position.addVariableDebt scaled
    return ⟨reserve, position⟩
  | .stableRate => do
    let rate := account.reserve.rates.stableRate
    let position ← account.position.addStableDebt amount rate now
    let reserve ← account.reserve.mintStableDebt amount rate now
    return ⟨reserve, position⟩

/-- gives up `amount` of a debt; stable debt leaves the average at the rate the position carries it at -/
def giveUp (amount : UInt256) (now : Nat) (account : Account) : RateMode → Checked Account
  | .variableRate => do
    let scaled ← account.position.scaledDebtPart amount account.reserve
    let position ← account.position.removeVariableDebt scaled
    let reserve ← account.reserve.burnVariableDebt scaled
    return ⟨reserve, position⟩
  | .stableRate => do
    let reserve ← account.reserve.burnStableDebt amount account.position.stableRate now
    let position ← account.position.removeStableDebt amount now
    return ⟨reserve, position⟩

/-- borrows `amount` of the available liquidity into the wallet -/
def borrow (curve : RateCurve) (amount : UInt256) (mode : RateMode) (now : Nat) (account : Account) :
    Checked Account := do
  require (amount ≤ account.reserve.available) .badRequest
  let account ← account.takeOn amount now mode
  let reserve ← account.reserve.refresh curve 0 amount
  let position ← account.position.receive amount
  return ⟨reserve, position⟩

/-- pays back `amount` of one kind of debt from the wallet, but no more than the debt, so that the largest amount pays
back all of it -/
def repay (curve : RateCurve) (amount : UInt256) (mode : RateMode) (now : Nat) (account : Account) :
    Checked Account := do
  let debt := account.position.debt mode
  require (debt ≠ 0) .badRequest
  let payback := min amount debt
  let account ← account.giveUp payback now mode
  let reserve ← account.reserve.refresh curve payback 0
  let position ← account.position.spend payback
  return ⟨reserve, position⟩

/-- gives up the whole debt of one kind and takes the same amount on as the other kind -/
def convert (curve : RateCurve) (source target : RateMode) (now : Nat) (account : Account) : Checked Account := do
  let debt := account.position.debt source
  require (debt ≠ 0) .badRequest
  let account ← account.giveUp debt now source
  let account ← account.takeOn debt now target
  let reserve ← account.reserve.refresh curve 0 0
  return { account with reserve }

/-- moves the whole debt out of `mode` into the other kind -/
def swapMode (curve : RateCurve) (mode : RateMode) (now : Nat) (account : Account) : Checked Account :=
  account.convert curve mode mode.other now

/-- takes the whole stable debt on anew, at the reserve's stable rate -/
def rebalance (curve : RateCurve) (now : Nat) (account : Account) : Checked Account :=
  account.convert curve .stableRate .stableRate now

end Account

end Lending
