/-
A liquidation: someone repays part of a borrower's debt in one market and takes the borrower's collateral in another,
with a bonus of which the treasury keeps a fee.

`Book` holds everything a liquidation touches, two reserves and five positions. It runs in phases on the book accrued to
the moment: the amounts are quoted (`quote`), the debt is repaid, variable debt first (`repay`), the collateral goes to
the liquidator and the fee to the treasury (`seize`), and all positions are settled. When the liquidator keeps the
collateral as supply, the collateral reserve is only looked at and goes back as it came.
-/
import Lending.Account.Debt
import Lending.Config
import Lending.Liquidation.Quote

namespace Lending.Liquidation

/-- what a liquidator asks for -/
structure Terms where
  debtPrice : UInt256
  collateralPrice : UInt256
  /-- the debt offered to be repaid; the largest amount offers all of it -/
  debtToCover : UInt256
  /-- whether the collateral is taken as supply rather than as underlying -/
  receiveSupply : Bool
  deriving DecidableEq, Repr

/-- the positions a liquidation touches, in the market of the debt and in that of the collateral -/
structure Parties where
  borrowerDebt : Position
  borrowerCollateral : Position
  liquidatorDebt : Position
  liquidatorCollateral : Position
  treasury : Position
  deriving DecidableEq, Repr

/-- the two markets and the five positions of a liquidation -/
structure Book where
  debtReserve : Reserve
  collateralReserve : Reserve
  parties : Parties
  deriving DecidableEq, Repr

/-- each party is one user throughout, the three are different users, and the markets are different -/
structure Book.Consistent (book : Book) : Prop where
  assets : book.debtReserve.asset ≠ book.collateralReserve.asset
  borrower : book.parties.borrowerCollateral.owner = book.parties.borrowerDebt.owner
  liquidator : book.parties.liquidatorCollateral.owner = book.parties.liquidatorDebt.owner
  others : book.parties.borrowerDebt.owner ≠ book.parties.liquidatorDebt.owner
  treasuryBorrower : book.parties.treasury.owner ≠ book.parties.borrowerDebt.owner
  treasuryLiquidator : book.parties.treasury.owner ≠ book.parties.liquidatorDebt.owner

theorem Book.consistent_iff (book : Book) :
    book.Consistent ↔ book.debtReserve.asset ≠ book.collateralReserve.asset ∧
      book.parties.borrowerCollateral.owner = book.parties.borrowerDebt.owner ∧
      book.parties.liquidatorCollateral.owner = book.parties.liquidatorDebt.owner ∧
      book.parties.borrowerDebt.owner ≠ book.parties.liquidatorDebt.owner ∧
      book.parties.treasury.owner ≠ book.parties.borrowerDebt.owner ∧
      book.parties.treasury.owner ≠ book.parties.liquidatorDebt.owner :=
  ⟨fun h => ⟨h.assets, h.borrower, h.liquidator, h.others, h.treasuryBorrower, h.treasuryLiquidator⟩,
   fun ⟨hassets, hborrower, hliquidator, hothers, htb, htl⟩ => ⟨hassets, hborrower, hliquidator, hothers, htb, htl⟩⟩

instance (book : Book) : Decidable book.Consistent := decidable_of_iff' _ book.consistent_iff

/-! ## Accruing -/

/-- both reserves at `now` -/
def Book.accrueReserves (now : Nat) (book : Book) : Checked Book := do
  let debtReserve ← book.debtReserve.accrue now
  let collateralReserve ← book.collateralReserve.accrue now
  return { book with debtReserve, collateralReserve }

/-- all positions at `now`, when the reserves already stand there -/
def Book.settle (now : Nat) (book : Book) : Checked Book := do
  let borrowerDebt ← book.parties.borrowerDebt.accrue book.debtReserve now
  let liquidatorDebt ← book.parties.liquidatorDebt.accrue book.debtReserve now
  let borrowerCollateral ← book.parties.borrowerCollateral.accrue book.collateralReserve now
  let liquidatorCollateral ← book.parties.liquidatorCollateral.accrue book.collateralReserve now
  let treasury ← book.parties.treasury.accrue book.collateralReserve now
  return { book with
    parties := { borrowerDebt, borrowerCollateral, liquidatorDebt, liquidatorCollateral, treasury } }

/-- the whole book at `now` -/
def Book.accrue (now : Nat) (book : Book) : Checked Book := do
  let book ← book.accrueReserves now
  book.settle now

/-! ## Phases -/

/-- the amounts moved: the borrower must have debt, and supply that counts as collateral; no more than the whole debt is
covered, and not nothing -/
def Book.quote (config : ReserveConfig) (terms : Terms) (book : Book) : Checked Amounts := do
  require (book.parties.borrowerCollateral.collateral = true) .badRequest
  let debt ← book.parties.borrowerDebt.totalDebt
  require (debt ≠ 0) .badRequest
  let balance := book.parties.borrowerCollateral.supply
  require (balance ≠ 0) .badRequest
  let debtUnit ← book.debtReserve.listing.unit
  let collateralUnit ← book.collateralReserve.listing.unit
  let amounts ← Liquidation.quote (min terms.debtToCover debt) balance ⟨terms.debtPrice, debtUnit⟩
    ⟨terms.collateralPrice, collateralUnit⟩ config.liquidationBonus config.liquidationProtocolFee
  require (amounts.debtToCover ≠ 0) .badRequest
  return amounts

/-- gives up all variable debt of an account, if it has any -/
def clearVariableDebt (now : Nat) (account : Account) : Checked Account :=
  if account.position.variableDebt = 0 then return account
  else account.giveUp account.position.variableDebt now .variableRate

/-- gives up `covered` of an account's debt, variable debt first -/
def coverDebt (covered : UInt256) (now : Nat) (account : Account) : Checked Account :=
  if covered ≤ account.position.variableDebt then account.giveUp covered now .variableRate
  else do
    let cleared ← clearVariableDebt now account
    cleared.giveUp (covered.monus account.position.variableDebt) now .stableRate

/-- the liquidator pays `covered` into the debt market and the borrower's debt shrinks by it -/
def Book.repay (curve : RateCurve) (covered : UInt256) (now : Nat) (book : Book) : Checked Book := do
  let account ← coverDebt covered now ⟨book.debtReserve, book.parties.borrowerDebt⟩
  let debtReserve ← account.reserve.refresh curve covered 0
  let liquidatorDebt ← book.parties.liquidatorDebt.spend covered
  return { book with
    debtReserve, parties := { book.parties with borrowerDebt := account.position, liquidatorDebt } }

/-- the collateral that leaves the borrower, as scaled supply -/
structure ScaledSeizure where
  toLiquidator : UInt256
  toTreasury : UInt256
  deriving DecidableEq, Repr

/-- all of the borrower's collateral is seized -/
def Book.SeizesAll (amounts : Amounts) (book : Book) : Prop :=
  amounts.totalCollateral = book.parties.borrowerCollateral.supply

instance (amounts : Amounts) (book : Book) : Decidable (book.SeizesAll amounts) := inferInstanceAs (Decidable (_ = _))

/-- the liquidator's part, when the treasury takes `fee`: of a balance seized whole, all but the fee -/
def Book.scaledForLiquidator (amounts : Amounts) (fee : UInt256) (book : Book) : Checked UInt256 :=
  if book.SeizesAll amounts then book.parties.borrowerCollateral.scaledSupply.sub fee
  else book.collateralReserve.scaleSupply amounts.liquidatorCollateral

/-- the scaled supply seized for `amounts` -/
def Book.scaledSeizure (amounts : Amounts) (book : Book) : Checked ScaledSeizure := do
  let toTreasury ← book.collateralReserve.scaleSupply amounts.protocolFee
  let toLiquidator ← book.scaledForLiquidator amounts toTreasury
  return { toLiquidator, toTreasury }

/-- the liquidator takes `scaled` of the borrower's supply as supply -/
def Book.seizeSupply (scaled : UInt256) (book : Book) : Checked Book := do
  let borrowerCollateral ← book.parties.borrowerCollateral.removeSupply scaled
  let liquidatorCollateral ← book.parties.liquidatorCollateral.addSupply scaled
  return { book with parties := { book.parties with borrowerCollateral, liquidatorCollateral } }

/-- the liquidator takes `amount` of underlying, for which `scaled` of the borrower's supply is burned -/
def Book.seizeUnderlying (curve : RateCurve) (amount scaled : UInt256) (book : Book) : Checked Book := do
  require (amount ≤ book.collateralReserve.available) .badRequest
  let reserve ← book.collateralReserve.refresh curve 0 amount
  let collateralReserve ← reserve.burnSupply scaled
  let borrowerCollateral ← book.parties.borrowerCollateral.removeSupply scaled
  let liquidatorCollateral ← book.parties.liquidatorCollateral.receive amount
  return { book with
    collateralReserve, parties := { book.parties with borrowerCollateral, liquidatorCollateral } }

/-- the liquidator takes the collateral in the form asked for -/
def Book.take (curve : RateCurve) (amount scaled : UInt256) (receiveSupply : Bool) (book : Book) : Checked Book :=
  if receiveSupply then book.seizeSupply scaled else book.seizeUnderlying curve amount scaled

/-- the treasury takes `scaled` of the borrower's supply, which does not become collateral -/
def Book.chargeFee (scaled : UInt256) (book : Book) : Checked Book :=
  if scaled = 0 then return book
  else do
    let borrowerCollateral ← book.parties.borrowerCollateral.removeSupply scaled
    let treasury ← book.parties.treasury.creditSupply scaled
    return { book with parties := { book.parties with borrowerCollateral, treasury } }

/-- the borrower's supply is no collateral any more -/
def Book.dropCollateral (book : Book) : Book :=
  { book with parties := { book.parties with
      borrowerCollateral := { book.parties.borrowerCollateral with collateral := false } } }

/-- the collateral moves to the liquidator and the treasury; a balance seized whole is no collateral any more -/
def Book.seize (curve : RateCurve) (amounts : Amounts) (receiveSupply : Bool) (book : Book) : Checked Book := do
  let scaled ← book.scaledSeizure amounts
  let taken ← book.take curve amounts.liquidatorCollateral scaled.toLiquidator receiveSupply
  let charged ← taken.chargeFee scaled.toTreasury
  return if book.SeizesAll amounts then charged.dropCollateral else charged

/-! ## The liquidation -/

/-- the book after a liquidation, and the amounts it moved -/
structure Outcome where
  book : Book
  amounts : Amounts
  deriving DecidableEq, Repr

/-- the liquidation of a book that is accrued to `now` -/
def Book.liquidateNow (debtConfig collateralConfig : ReserveConfig) (terms : Terms) (now : Nat) (book : Book) :
    Checked Outcome := do
  let amounts ← book.quote collateralConfig terms
  let book ← book.repay debtConfig.curve amounts.debtToCover now
  let book ← book.seize collateralConfig.curve amounts terms.receiveSupply
  let book ← book.settle now
  return { book, amounts }

/-- the liquidation of a book at `now` -/
def Book.liquidate (debtConfig collateralConfig : ReserveConfig) (terms : Terms) (now : Nat) (book : Book) :
    Checked Outcome := do
  require book.Consistent .badRequest
  require (terms.debtToCover ≠ 0) .badRequest
  let accrued ← book.accrue now
  let outcome ← accrued.liquidateNow debtConfig collateralConfig terms now
  return if terms.receiveSupply
    then { outcome with book := { outcome.book with collateralReserve := book.collateralReserve } }
    else outcome

end Lending.Liquidation
