/-
The actions users take against a pool, and what a sequence of them does.

An action reads what it needs from the pool and writes back what it changed, or is refused and writes nothing. A
submission is a sequence of requests that goes through as a whole or not at all.
-/
import Lending.Account.Action
import Lending.Liquidation.Book
import Lending.Pool

namespace Lending

/-- an action of a user -/
inductive Action where
  | account (owner asset : Address) (action : AccountAction)
  | setCollateral (owner asset : Address) (enabled : Bool)
  | transfer (sender recipient asset : Address) (amount : UInt256)
  | liquidation (liquidator borrower debtAsset collateralAsset : Address) (terms : Liquidation.Terms)
  deriving DecidableEq, Repr

/-- an action and when it happens -/
structure Request where
  timestamp : Nat
  action : Action
  deriving DecidableEq, Repr

namespace Pool

/-! ## Reading and writing several places -/

/-- the account of a user in a market -/
def accountOf (pool : Pool) (owner asset : Address) : Checked Account := do
  let reserve ← pool.reserveOf asset
  let position ← pool.positionOf owner asset
  return { reserve, position }

/-- writes a reserve and its position -/
def putAccount (pool : Pool) (account : Account) : Pool :=
  (pool.putReserve account.reserve).putPosition account.position

/-- everything a liquidation touches; the treasury takes its fee in the market of the collateral -/
def bookOf (pool : Pool) (liquidator borrower debtAsset collateralAsset : Address) : Checked Liquidation.Book := do
  let borrowerDebt ← pool.positionOf borrower debtAsset
  let borrowerCollateral ← pool.positionOf borrower collateralAsset
  let liquidatorDebt ← pool.positionOf liquidator debtAsset
  let liquidatorCollateral ← pool.positionOf liquidator collateralAsset
  let treasury ← pool.positionOf pool.config.treasury collateralAsset
  let debtReserve ← pool.reserveOf debtAsset
  let collateralReserve ← pool.reserveOf collateralAsset
  return { debtReserve, collateralReserve,
           parties := { borrowerDebt, borrowerCollateral, liquidatorDebt, liquidatorCollateral, treasury } }

/-- writes two reserves and then five positions -/
def putBook (pool : Pool) (book : Liquidation.Book) : Pool :=
  let pool := (pool.putReserve book.debtReserve).putReserve book.collateralReserve
  let pool := (pool.putPosition book.parties.borrowerDebt).putPosition book.parties.borrowerCollateral
  let pool := (pool.putPosition book.parties.liquidatorDebt).putPosition book.parties.liquidatorCollateral
  pool.putPosition book.parties.treasury

/-! ## Actions -/

/-- the pool after an action at `now` -/
def act (now : Nat) (pool : Pool) : Action → Checked Pool
  | .account owner asset action => do
    let config ← pool.configOf asset
    let account ← pool.accountOf owner asset
    let account ← account.perform pool.config config now action
    return pool.putAccount account
  | .setCollateral owner asset enabled => do
    let account ← pool.accountOf owner asset
    let position ← account.setCollateral enabled now
    return pool.putPosition position
  | .transfer sender recipient asset amount => do
    let reserve ← pool.reserveOf asset
    let sender ← pool.positionOf sender asset
    let recipient ← pool.positionOf recipient asset
    let transfer ← Transfer.perform reserve amount now ⟨sender, recipient⟩
    return (pool.putPosition transfer.sender).putPosition transfer.recipient
  | .liquidation liquidator borrower debtAsset collateralAsset terms => do
    let book ← pool.bookOf liquidator borrower debtAsset collateralAsset
    let debtConfig ← pool.configOf debtAsset
    let collateralConfig ← pool.configOf collateralAsset
    let outcome ← book.liquidate debtConfig collateralConfig terms now
    return pool.putBook outcome.book

/-- the pool after a request -/
def apply (pool : Pool) (request : Request) : Checked Pool := pool.act request.timestamp request.action

/-- the pool after a sequence of requests; the first refusal refuses the sequence -/
def submit (pool : Pool) (requests : List Request) : Checked Pool := requests.foldlM apply pool

end Pool

end Lending
