/-
The nine actions that change one account, and the one course they all take.

`Account.perform` looks at the amount first, accrues the account, lets the action change it and settles the position.
-/
import Lending.Account.Debt
import Lending.Account.Supply
import Lending.Account.Unbacked

namespace Lending

/-- an action on one account -/
inductive AccountAction where
  | supply (amount : UInt256)
  | withdraw (amount : UInt256)
  | borrow (amount : UInt256) (mode : RateMode)
  | repay (amount : UInt256) (mode : RateMode)
  | swapMode (mode : RateMode)
  | rebalance
  | mintUnbacked (amount : UInt256)
  | backUnbacked (amount fee : UInt256)
  | flashLoan (amount : UInt256)
  deriving DecidableEq, Repr

namespace AccountAction

/-- the amount that an action must not leave at zero, if it has one -/
def amount? : AccountAction → Option UInt256
  | supply amount | withdraw amount | borrow amount _ | repay amount _ | mintUnbacked amount | flashLoan amount =>
    some amount
  | swapMode _ | rebalance | backUnbacked _ _ => none

/-- what the action does to an account that is accrued to `now` -/
def change (pool : PoolConfig) (config : ReserveConfig) (now : Nat) (account : Account) :
    AccountAction → Checked Account
  | supply amount => account.supply config.curve amount
  | withdraw amount => account.withdraw config.curve amount
  | borrow amount mode => account.borrow config.curve amount mode now
  | repay amount mode => account.repay config.curve amount mode now
  | swapMode mode => account.swapMode config.curve mode now
  | rebalance => account.rebalance config.curve now
  | mintUnbacked amount => account.mintUnbacked config amount
  | backUnbacked amount fee => account.backUnbacked pool config.curve amount fee
  | flashLoan amount => account.flashLoan pool config.curve amount

end AccountAction

/-- the account after `action` at `now` -/
def Account.perform (pool : PoolConfig) (config : ReserveConfig) (now : Nat) (action : AccountAction)
    (account : Account) : Checked Account := do
  require (action.amount? ≠ some 0) .badRequest
  let account ← account.accrue now
  let account ← action.change pool config now account
  account.settle now

end Lending
