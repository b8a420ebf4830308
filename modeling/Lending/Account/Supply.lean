/-
Supplying underlying to a market and taking it out again, passing supply on, and using it as collateral.

The functions on `Account` want an account that is accrued to the moment. `Transfer.perform` and
`Account.setCollateral` accrue themselves and give back positions only: neither writes to the reserve.
-/
import Lending.Account.Basic

namespace Lending

namespace Account

/-- supplies `amount` from the wallet; an amount worth no scaled supply is refused -/
def supply (curve : RateCurve) (amount : UInt256) (account : Account) : Checked Account := do
  let reserve ← account.reserve.refresh curve amount 0
  let scaled ← reserve.scaleSupply amount
  require (scaled ≠ 0) .badRequest
  let reserve ← reserve.mintSupply scaled
  let position ← account.position.addSupply scaled
  let position ← position.spend amount
  return ⟨reserve, position⟩

/-- withdraws `amount` into the wallet, or the whole balance for the largest amount; it must not be nothing and not be
more than the balance or the available liquidity -/
def withdraw (curve : RateCurve) (amount : UInt256) (account : Account) : Checked Account := do
  let amount := if amount = UInt256.maxValue then account.position.supply else amount
  require (amount ≠ 0) .badRequest
  require (amount ≤ account.position.supply ∧ amount ≤ account.reserve.available) .badRequest
  let scaled ← account.position.scaledPart amount account.reserve
  let reserve ← account.reserve.refresh curve 0 amount
  let reserve ← reserve.burnSupply scaled
  let position ← account.position.removeSupply scaled
  let position ← position.receive amount
  return ⟨reserve, position⟩

/-- the position after its supply is declared collateral or not, at `now` -/
def setCollateral (enabled : Bool) (now : Nat) (account : Account) : Checked Position := do
  let account ← account.accrue now
  account.position.setCollateral enabled

end Account

/-- the two positions of a transfer, in one market -/
structure Transfer where
  sender : Position
  recipient : Position
  deriving DecidableEq, Repr

namespace Transfer

/-- both positions at the moment, given the reserve accrued to it; the sender comes first -/
def accrue (reserve : Reserve) (now : Nat) (transfer : Transfer) : Checked Transfer := do
  let sender ← transfer.sender.accrue reserve now
  let recipient ← transfer.recipient.accrue reserve now
  return ⟨sender, recipient⟩

/-- moves scaled supply worth `amount` from the sender to the recipient -/
def move (reserve : Reserve) (amount : UInt256) (transfer : Transfer) : Checked Transfer := do
  let scaled ← transfer.sender.scaledPart amount reserve
  let sender ← transfer.sender.removeSupply scaled
  let recipient ← transfer.recipient.addSupply scaled
  return ⟨sender, recipient⟩

/-- the positions after `amount` of supply is passed on at `now`; a transfer to oneself only accrues -/
def perform (reserve : Reserve) (amount : UInt256) (now : Nat) (transfer : Transfer) : Checked Transfer := do
  require (amount ≠ 0) .badRequest
  let reserve ← reserve.accrue now
  let transfer ← transfer.accrue reserve now
  require (amount ≤ transfer.sender.supply) .badRequest
  if transfer.sender.owner = transfer.recipient.owner then return ⟨transfer.sender, transfer.sender⟩
  else
    let transfer ← transfer.move reserve amount
    transfer.accrue reserve now

end Transfer

end Lending
