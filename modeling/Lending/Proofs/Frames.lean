/-
What a request leaves alone.

The footprint of an action lists where it may write: the markets, the positions, and of the positions those whose debts,
whose supply and whose wallet it may change. Interest is not among them, because what a position owes or holds with
interest is computed from what is listed here. `Frame` says that everything outside a footprint is as it was, and that
nothing is moved to another place.

Results:
- `Account.change_owed`, `Account.change_supplied`, `Account.change_wallet`: which parts of a position an action on an
  account leaves alone;
- `Parties.Keeps`, `Book.liquidate_keeps`: the same for the five positions of a liquidation;
- `Effect.covered`: every action writes within its footprint;
- `Writes.frame`: what is written within a footprint leaves everything outside of it alone;
- `apply_frame`: so does a request that goes through.
-/
import Lending.Proofs.DebtFrames
import Lending.Proofs.Refusals

namespace Lending

open UInt256

/-! ## The parts of a position -/

namespace Position

/-- what is stored of the debts of a position -/
def owed (p : Position) : UInt256 × UInt256 × UInt256 × Nat :=
  (p.scaledVariableDebt, p.principalStableDebt, p.stableRate, p.stableUpdated)

/-- what is stored of the supply of a position -/
def supplied (p : Position) : UInt256 × Bool := (p.scaledSupply, p.collateral)

variable {p q : Position} {amount scaled : UInt256}

theorem SameDebts.owed_eq (h : p.SameDebts q) : q.owed = p.owed := by
  simp only [owed, h.scaledVariableDebt, h.principalStableDebt, h.stableRate, h.stableUpdated]

/-- accruing recomputes balances and touches none of the parts -/
theorem accrue_parts {r : Reserve} {now : Nat} (h : p.accrue r now = .ok q) :
    q.owed = p.owed ∧ q.supplied = p.supplied ∧ q.wallet = p.wallet := by
  obtain ⟨_, _, _, _, rfl, _⟩ := accrue_eq_ok h
  exact ⟨rfl, rfl, rfl⟩

theorem spend_parts (h : p.spend amount = .ok q) : q.owed = p.owed ∧ q.supplied = p.supplied := by
  obtain ⟨_, rfl, _⟩ := spend_spec h
  exact ⟨rfl, rfl⟩

theorem receive_parts (h : p.receive amount = .ok q) : q.owed = p.owed ∧ q.supplied = p.supplied := by
  obtain ⟨_, rfl, _⟩ := receive_spec h
  exact ⟨rfl, rfl⟩

theorem addSupply_parts (h : p.addSupply scaled = .ok q) : q.owed = p.owed ∧ q.wallet = p.wallet := by
  obtain ⟨_, _, rfl, _⟩ := addSupply_spec h
  exact ⟨rfl, rfl⟩

theorem removeSupply_parts (h : p.removeSupply scaled = .ok q) : q.owed = p.owed ∧ q.wallet = p.wallet := by
  obtain ⟨_, _, rfl, _⟩ := removeSupply_spec h
  exact ⟨rfl, rfl⟩

end Position

/-! ## Actions on an account -/

namespace AccountAction

/-- whether an action takes debt on, gives it up or converts it -/
def movesDebt : AccountAction → Bool
  | borrow _ _ | repay _ _ | swapMode _ | rebalance => true
  | supply _ | withdraw _ | mintUnbacked _ | backUnbacked _ _ | flashLoan _ => false

/-- whether an action mints or burns supply -/
def movesSupply : AccountAction → Bool
  | supply _ | withdraw _ | mintUnbacked _ => true
  | borrow _ _ | repay _ _ | swapMode _ | rebalance | backUnbacked _ _ | flashLoan _ => false

/-- whether an action pays into a wallet or out of it -/
def movesWallet : AccountAction → Bool
  | supply _ | withdraw _ | borrow _ _ | repay _ _ | backUnbacked _ _ | flashLoan _ => true
  | swapMode _ | rebalance | mintUnbacked _ => false

end AccountAction

namespace Account

variable {a b : Account} {amount : UInt256} {now : Nat} {mode : RateMode} {curve : RateCurve}

theorem takeOn_parts (h : a.takeOn amount now mode = .ok b) :
    b.position.supplied = a.position.supplied ∧ b.position.wallet = a.position.wallet := by
  cases mode with
  | variableRate =>
    obtain ⟨_, _, _, _, _, rfl, _⟩ := takeOn_variable_spec h
    exact ⟨rfl, rfl⟩
  | stableRate =>
    obtain ⟨_, _, _, _, rfl, _⟩ := takeOn_stable_spec h
    exact ⟨rfl, rfl⟩

theorem giveUp_parts (h : a.giveUp amount now mode = .ok b) :
    b.position.supplied = a.position.supplied ∧ b.position.wallet = a.position.wallet := by
  refine ⟨?_, (giveUp_cash h).2⟩
  cases mode with
  | variableRate =>
    obtain ⟨_, _, _, _, rfl, _⟩ := giveUp_variable_spec h
    rfl
  | stableRate =>
    obtain ⟨_, _, _, _, _, rfl, _⟩ := giveUp_stable_spec h
    rfl

theorem convert_parts {source target : RateMode} (h : a.convert curve source target now = .ok b) :
    b.position.supplied = a.position.supplied ∧ b.position.wallet = a.position.wallet := by
  obtain ⟨_, given, taken, hg, ht, _, _, rfl⟩ := convert_eq_ok h
  have hgiven := giveUp_parts hg
  have htaken := takeOn_parts ht
  exact ⟨htaken.1.trans hgiven.1, htaken.2.trans hgiven.2⟩

section Change

variable {pool : PoolConfig} {config : ReserveConfig} {action : AccountAction}

theorem change_owed (hm : action.movesDebt = false) (h : action.change pool config now a = .ok b) :
    b.position.owed = a.position.owed := by
  cases action with
  | supply amount => exact (supply_sameDebts h).position.owed_eq
  | withdraw amount => exact (withdraw_sameDebts h).position.owed_eq
  | mintUnbacked amount => exact (mintUnbacked_sameDebts h).position.owed_eq
  | backUnbacked amount fee => exact (backUnbacked_sameDebts h).position.owed_eq
  | flashLoan amount => exact (flashLoan_sameDebts h).position.owed_eq
  | borrow _ _ | repay _ _ | swapMode _ | rebalance => cases hm

theorem change_supplied (hm : action.movesSupply = false) (h : action.change pool config now a = .ok b) :
    b.position.supplied = a.position.supplied := by
  cases action with
  | borrow amount mode =>
    obtain ⟨_, taken, ht, _, hp⟩ := borrow_eq_ok h
    exact (Position.receive_parts hp).2.trans (takeOn_parts ht).1
  | repay amount mode =>
    obtain ⟨_, given, hg, _, hp⟩ := repay_eq_ok h
    exact (Position.spend_parts hp).2.trans (giveUp_parts hg).1
  | swapMode mode => exact (convert_parts h).1
  | rebalance => exact (convert_parts h).1
  | backUnbacked amount fee =>
    obtain ⟨_, _, _, _, _, _, _, _, _, _, hp⟩ := backUnbacked_spec h
    exact (Position.spend_parts hp).2
  | flashLoan amount =>
    obtain ⟨_, _, _, _, _, _, hp⟩ := flashLoan_spec h
    exact (Position.spend_parts hp).2
  | supply _ | withdraw _ | mintUnbacked _ => cases hm

theorem change_wallet (hm : action.movesWallet = false) (h : action.change pool config now a = .ok b) :
    b.position.wallet = a.position.wallet := by
  cases action with
  | swapMode mode => exact (convert_parts h).2
  | rebalance => exact (convert_parts h).2
  | mintUnbacked amount =>
    obtain ⟨_, _, _, _, _, _, _, _, _, _, _, rfl, _⟩ := mintUnbacked_spec h
    rfl
  | supply _ | withdraw _ | borrow _ _ | repay _ _ | backUnbacked _ _ | flashLoan _ => cases hm

/-- **An action on an account leaves alone the parts of the position that it does not move.** -/
theorem perform_parts (h : a.perform pool config now action = .ok b) :
    (action.movesDebt = false → b.position.owed = a.position.owed) ∧
      (action.movesSupply = false → b.position.supplied = a.position.supplied) ∧
      (action.movesWallet = false → b.position.wallet = a.position.wallet) := by
  obtain ⟨_, accrued, changed, ha, hc, hs⟩ := perform_eq_ok h
  obtain ⟨_, _, _, hp, rfl⟩ := accrue_eq_ok ha
  obtain ⟨_, hq, rfl⟩ := settle_eq_ok hs
  obtain ⟨howed, hsupplied, hwallet⟩ := Position.accrue_parts hp
  obtain ⟨howed', hsupplied', hwallet'⟩ := Position.accrue_parts hq
  refine ⟨fun hm => ?_, fun hm => ?_, fun hm => ?_⟩
  · exact howed'.trans ((change_owed hm hc).trans howed)
  · exact hsupplied'.trans ((change_supplied hm hc).trans hsupplied)
  · exact hwallet'.trans ((change_wallet hm hc).trans hwallet)

end Change

theorem setCollateral_parts {enabled : Bool} {p : Position} (h : a.setCollateral enabled now = .ok p) :
    p.owed = a.position.owed ∧ p.wallet = a.position.wallet := by
  obtain ⟨_, ha, rfl, _⟩ := setCollateral_spec h
  obtain ⟨_, _, _, hp, rfl⟩ := accrue_eq_ok ha
  obtain ⟨howed, _, hwallet⟩ := Position.accrue_parts hp
  exact ⟨howed, hwallet⟩

end Account

/-! ## Transfers -/

namespace Transfer

variable {a b : Transfer} {r : Reserve} {amount : UInt256} {now : Nat}

/-- no debt of `b` and no wallet differs from that of `a` -/
structure Keeps (a b : Transfer) : Prop where
  senderOwed : b.sender.owed = a.sender.owed
  senderWallet : b.sender.wallet = a.sender.wallet
  recipientOwed : b.recipient.owed = a.recipient.owed
  recipientWallet : b.recipient.wallet = a.recipient.wallet

theorem Keeps.trans {a b c : Transfer} (h1 : Keeps a b) (h2 : Keeps b c) : Keeps a c where
  senderOwed := h2.senderOwed.trans h1.senderOwed
  senderWallet := h2.senderWallet.trans h1.senderWallet
  recipientOwed := h2.recipientOwed.trans h1.recipientOwed
  recipientWallet := h2.recipientWallet.trans h1.recipientWallet

theorem accrue_keeps (h : a.accrue r now = .ok b) : a.Keeps b := by
  obtain ⟨_, _, hs, hp, rfl⟩ := accrue_eq_ok h
  obtain ⟨howed, _, hwallet⟩ := Position.accrue_parts hs
  obtain ⟨howed', _, hwallet'⟩ := Position.accrue_parts hp
  exact ⟨howed, hwallet, howed', hwallet'⟩

theorem move_keeps (h : a.move r amount = .ok b) : a.Keeps b := by
  obtain ⟨_, _, _, _, _, _, rfl, _⟩ := move_spec h
  exact ⟨rfl, rfl, rfl, rfl⟩

theorem perform_keeps (h : a.perform r amount now = .ok b) (hne : a.sender.owner ≠ a.recipient.owner) :
    a.Keeps b := by
  obtain ⟨_, reserve, accrued, _, ha, _, h⟩ := perform_eq_ok h
  rw [if_neg (mt (accrue_moves ha).owners_iff.1 hne)] at h
  obtain ⟨moved, hm, h⟩ := h
  exact ((accrue_keeps ha).trans (move_keeps hm)).trans (accrue_keeps h)

end Transfer

/-! ## Liquidations -/

namespace Liquidation

/-- only the borrower's debt, the supply in the market of the collateral and the liquidator's wallets may change from
`p` to `q`, and the wallet on the side of the collateral only when underlying is taken -/
structure Parties.Keeps (receiveSupply : Bool) (p q : Parties) : Prop where
  borrowerDebt : q.borrowerDebt.supplied = p.borrowerDebt.supplied ∧ q.borrowerDebt.wallet = p.borrowerDebt.wallet
  borrowerCollateral :
    q.borrowerCollateral.owed = p.borrowerCollateral.owed ∧ q.borrowerCollateral.wallet = p.borrowerCollateral.wallet
  liquidatorDebt :
    q.liquidatorDebt.owed = p.liquidatorDebt.owed ∧ q.liquidatorDebt.supplied = p.liquidatorDebt.supplied
  liquidatorCollateral : q.liquidatorCollateral.owed = p.liquidatorCollateral.owed ∧
    (receiveSupply = true → q.liquidatorCollateral.wallet = p.liquidatorCollateral.wallet)
  treasury : q.treasury.owed = p.treasury.owed ∧ q.treasury.wallet = p.treasury.wallet

theorem Parties.Keeps.refl (receiveSupply : Bool) (p : Parties) : Keeps receiveSupply p p :=
  ⟨⟨rfl, rfl⟩, ⟨rfl, rfl⟩, ⟨rfl, rfl⟩, ⟨rfl, fun _ => rfl⟩, ⟨rfl, rfl⟩⟩

theorem Parties.Keeps.trans {receiveSupply : Bool} {p q r : Parties} (h1 : Keeps receiveSupply p q)
    (h2 : Keeps receiveSupply q r) : Keeps receiveSupply p r where
  borrowerDebt := ⟨h2.borrowerDebt.1.trans h1.borrowerDebt.1, h2.borrowerDebt.2.trans h1.borrowerDebt.2⟩
  borrowerCollateral :=
    ⟨h2.borrowerCollateral.1.trans h1.borrowerCollateral.1, h2.borrowerCollateral.2.trans h1.borrowerCollateral.2⟩
  liquidatorDebt := ⟨h2.liquidatorDebt.1.trans h1.liquidatorDebt.1, h2.liquidatorDebt.2.trans h1.liquidatorDebt.2⟩
  liquidatorCollateral := ⟨h2.liquidatorCollateral.1.trans h1.liquidatorCollateral.1,
    fun hs => (h2.liquidatorCollateral.2 hs).trans (h1.liquidatorCollateral.2 hs)⟩
  treasury := ⟨h2.treasury.1.trans h1.treasury.1, h2.treasury.2.trans h1.treasury.2⟩

theorem coverDebt_parts {a b : Account} {covered : UInt256} {now : Nat} (h : coverDebt covered now a = .ok b) :
    b.position.supplied = a.position.supplied ∧ b.position.wallet = a.position.wallet := by
  rcases coverDebt_cases h with ⟨_, h⟩ | ⟨_, cleared, hc, h⟩
  · exact Account.giveUp_parts h
  · obtain ⟨hsupplied, hwallet⟩ := Account.giveUp_parts h
    rcases clearVariableDebt_cases hc with ⟨_, rfl⟩ | ⟨_, hc⟩
    · exact ⟨hsupplied, hwallet⟩
    · have hcleared := Account.giveUp_parts hc
      exact ⟨hsupplied.trans hcleared.1, hwallet.trans hcleared.2⟩

namespace Book

variable {a b : Book} {curve : RateCurve} {amount covered scaled : UInt256} {now : Nat} {receiveSupply : Bool}

theorem settle_keeps (h : a.settle now = .ok b) : a.parties.Keeps receiveSupply b.parties := by
  obtain ⟨_, hs, rfl⟩ := settle_eq_ok h
  obtain ⟨_, hborrowerDebt⟩ := Position.accrue_parts hs.borrowerDebt
  obtain ⟨hborrowerOwed, _, hborrowerWallet⟩ := Position.accrue_parts hs.borrowerCollateral
  obtain ⟨hliquidatorOwed, hliquidatorSupplied, _⟩ := Position.accrue_parts hs.liquidatorDebt
  obtain ⟨hliquidatorOwed', _, hliquidatorWallet⟩ := Position.accrue_parts hs.liquidatorCollateral
  obtain ⟨htreasuryOwed, _, htreasuryWallet⟩ := Position.accrue_parts hs.treasury
  exact ⟨hborrowerDebt, ⟨hborrowerOwed, hborrowerWallet⟩, ⟨hliquidatorOwed, hliquidatorSupplied⟩,
    ⟨hliquidatorOwed', fun _ => hliquidatorWallet⟩, ⟨htreasuryOwed, htreasuryWallet⟩⟩

theorem repay_keeps (h : a.repay curve covered now = .ok b) : a.parties.Keeps receiveSupply b.parties := by
  obtain ⟨_, _, _, hc, _, hp, rfl⟩ := repay_spec h
  exact { Parties.Keeps.refl receiveSupply a.parties with
    borrowerDebt := coverDebt_parts hc, liquidatorDebt := Position.spend_parts hp }

theorem take_keeps (h : a.take curve amount scaled receiveSupply = .ok b) :
    a.parties.Keeps receiveSupply b.parties := by
  cases receiveSupply with
  | true =>
    obtain ⟨_, _, hp, hq, rfl⟩ := seizeSupply_spec h
    have hadded := Position.addSupply_parts hq
    exact { Parties.Keeps.refl true a.parties with
      borrowerCollateral := Position.removeSupply_parts hp, liquidatorCollateral := ⟨hadded.1, fun _ => hadded.2⟩ }
  | false =>
    obtain ⟨_, _, _, _, _, hp, hq, _, rfl, _⟩ := seizeUnderlying_spec h
    exact { Parties.Keeps.refl false a.parties with
      borrowerCollateral := Position.removeSupply_parts hp
      liquidatorCollateral := ⟨(Position.receive_parts hq).1, nofun⟩ }

theorem chargeFee_keeps (h : a.chargeFee scaled = .ok b) : a.parties.Keeps receiveSupply b.parties := by
  rcases chargeFee_cases h with ⟨_, rfl⟩ | ⟨_, _, hp, hq, rfl⟩
  · exact Parties.Keeps.refl receiveSupply _
  · obtain ⟨_, rfl, _⟩ := Position.creditSupply_spec hq
    exact { Parties.Keeps.refl receiveSupply a.parties with
      borrowerCollateral := Position.removeSupply_parts hp, treasury := ⟨rfl, rfl⟩ }

theorem seize_keeps {amounts : Amounts} (h : a.seize curve amounts receiveSupply = .ok b) :
    a.parties.Keeps receiveSupply b.parties := by
  obtain ⟨_, _, charged, _, ht, hc, rfl⟩ := seize_spec h
  have hkept := (take_keeps ht).trans (chargeFee_keeps hc)
  split
  · exact { hkept with borrowerCollateral := hkept.borrowerCollateral }
  · exact hkept

theorem liquidate_keeps {debtConfig collateralConfig : ReserveConfig} {terms : Terms} {outcome : Outcome}
    (h : a.liquidate debtConfig collateralConfig terms now = .ok outcome) :
    a.parties.Keeps terms.receiveSupply outcome.book.parties := by
  obtain ⟨_, _, accrued, result, ha, hr, rfl⟩ := liquidate_eq_ok h
  obtain ⟨_, hreserves, hsettled⟩ := accrue_eq_ok ha
  obtain ⟨_, _, _, _, rfl⟩ := accrueReserves_eq_ok hreserves
  obtain ⟨repaid, seized, _, hrepaid, hseized, hresult⟩ := liquidateNow_eq_ok hr
  have hkept : a.parties.Keeps terms.receiveSupply result.book.parties :=
    (settle_keeps hsettled).trans ((repay_keeps hrepaid).trans ((seize_keeps hseized).trans (settle_keeps hresult)))
  split
  · exact hkept
  · exact hkept

/-- collateral that is taken as supply leaves its market as it came -/
theorem liquidate_collateralReserve {debtConfig collateralConfig : ReserveConfig} {terms : Terms} {outcome : Outcome}
    (h : a.liquidate debtConfig collateralConfig terms now = .ok outcome) (hs : terms.receiveSupply = true) :
    outcome.book.collateralReserve = a.collateralReserve := by
  obtain ⟨_, _, _, _, _, _, rfl⟩ := liquidate_eq_ok h
  rw [if_pos hs]

end Book

end Liquidation

/-! ## Footprints -/

/-- where an action may write -/
structure Footprint where
  markets : List Address
  positions : List PositionKey
  /-- the positions whose debts may change -/
  debts : List PositionKey
  /-- the positions whose supply, or its use as collateral, may change -/
  supplies : List PositionKey
  wallets : List PositionKey
  deriving DecidableEq, Repr

/-- the footprint of an action, when liquidations pay their fee to `treasury`; a transfer, a declaration of collateral
and collateral that is taken as supply leave the market alone -/
def Action.footprint (treasury : Address) : Action → Footprint
  | .account owner asset action =>
    { markets := [asset], positions := [⟨owner, asset⟩]
      debts := if action.movesDebt then [⟨owner, asset⟩] else []
      supplies := if action.movesSupply then [⟨owner, asset⟩] else []
      wallets := if action.movesWallet then [⟨owner, asset⟩] else [] }
  | .setCollateral owner asset _ =>
    { markets := [], positions := [⟨owner, asset⟩], debts := [], supplies := [⟨owner, asset⟩], wallets := [] }
  | .transfer sender recipient asset _ =>
    { markets := [], positions := [⟨sender, asset⟩, ⟨recipient, asset⟩], debts := []
      supplies := [⟨sender, asset⟩, ⟨recipient, asset⟩], wallets := [] }
  | .liquidation liquidator borrower debtAsset collateralAsset terms =>
    { markets := if terms.receiveSupply then [debtAsset] else [debtAsset, collateralAsset]
      positions := [⟨borrower, debtAsset⟩, ⟨borrower, collateralAsset⟩, ⟨liquidator, debtAsset⟩,
        ⟨liquidator, collateralAsset⟩, ⟨treasury, collateralAsset⟩]
      debts := [⟨borrower, debtAsset⟩]
      supplies := [⟨borrower, collateralAsset⟩, ⟨liquidator, collateralAsset⟩, ⟨treasury, collateralAsset⟩]
      wallets := ⟨liquidator, debtAsset⟩ :: if terms.receiveSupply then [] else [⟨liquidator, collateralAsset⟩] }

/-- an action writes in the markets that it names, and nowhere else -/
theorem Action.footprint_named (treasury : Address) (action : Action) :
    (∀ asset ∈ (action.footprint treasury).markets, asset ∈ action.assets) ∧
      ∀ key ∈ (action.footprint treasury).positions, key.asset ∈ action.assets := by
  cases action with
  | account owner asset action => simp [footprint, assets]
  | setCollateral owner asset enabled => simp [footprint, assets]
  | transfer sender recipient asset amount => simp [footprint, assets]
  | liquidation liquidator borrower debtAsset collateralAsset terms =>
    cases hs : terms.receiveSupply <;> simp [footprint, assets, hs]

/-- a position may be rewritten from `p` to `q` within a footprint -/
structure Footprint.CoversPosition (f : Footprint) (p q : Position) : Prop where
  place : p.key ∈ f.positions
  owed : p.key ∈ f.debts ∨ q.owed = p.owed
  supplied : p.key ∈ f.supplies ∨ q.supplied = p.supplied
  wallet : p.key ∈ f.wallets ∨ q.wallet = p.wallet

/-- everything that is written stays within a footprint -/
structure Footprint.Covers (f : Footprint) (rs : List (Reserve × Reserve)) (ps : List (Position × Position)) :
    Prop where
  markets : ∀ w ∈ rs, w.1.asset ∈ f.markets ∨ w.2 = w.1
  positions : ∀ w ∈ ps, f.CoversPosition w.1 w.2

namespace Pool

variable {pool next : Pool}

/-! ## Every action writes within its footprint -/

theorem account_covered {owner asset : Address} {action : AccountAction} {config : ReserveConfig} {now : Nat}
    {a b : Account} (hr : a.reserve.asset = asset) (hk : a.position.key = ⟨owner, asset⟩)
    (h : a.perform pool.config config now action = .ok b) (treasury : Address) :
    ((Action.account owner asset action).footprint treasury).Covers [(a.reserve, b.reserve)]
      [(a.position, b.position)] := by
  obtain ⟨howed, hsupplied, hwallet⟩ := Account.perform_parts h
  have hmoves {moves : Bool} {same : Prop} (hs : moves = false → same) :
      a.position.key ∈ (if moves then [⟨owner, asset⟩] else []) ∨ same := by
    cases moves with
    | true => exact .inl (List.mem_singleton.2 hk)
    | false => exact .inr (hs rfl)
  refine ⟨List.forall_mem_singleton.2 (.inl (List.mem_singleton.2 hr)), List.forall_mem_singleton.2 ?_⟩
  exact ⟨List.mem_singleton.2 hk, hmoves howed, hmoves hsupplied, hmoves hwallet⟩

theorem liquidation_covered {liquidator borrower debtAsset collateralAsset : Address} {terms : Liquidation.Terms}
    {debtConfig collateralConfig : ReserveConfig} {book : Liquidation.Book} {outcome : Liquidation.Outcome} {now : Nat}
    (hp : pool.WellFormed) (hb : pool.Books liquidator borrower debtAsset collateralAsset book)
    (h : book.liquidate debtConfig collateralConfig terms now = .ok outcome) :
    ((Action.liquidation liquidator borrower debtAsset collateralAsset terms).footprint pool.config.treasury).Covers
      (bookReserves book outcome.book) (bookPositions book outcome.book) := by
  have hkept := Liquidation.Book.liquidate_keeps h
  have hbd := hp.key_of_positionOf hb.borrowerDebt
  have hbc := hp.key_of_positionOf hb.borrowerCollateral
  have hld := hp.key_of_positionOf hb.liquidatorDebt
  have hlc := hp.key_of_positionOf hb.liquidatorCollateral
  have ht := hp.key_of_positionOf hb.treasury
  constructor
  · refine List.forall_mem_cons.2 ⟨.inl ?_, List.forall_mem_singleton.2 ?_⟩
    · rw [hp.asset hb.debtReserve, Action.footprint]
      split <;> exact List.mem_cons_self
    · by_cases hs : terms.receiveSupply = true
      · exact .inr (Liquidation.Book.liquidate_collateralReserve h hs)
      · rw [hp.asset hb.collateralReserve, Action.footprint, if_neg hs]
        exact .inl (List.mem_cons_of_mem _ List.mem_cons_self)
  · refine List.forall_mem_cons.2 ⟨?_, List.forall_mem_cons.2 ⟨?_, List.forall_mem_cons.2 ⟨?_,
      List.forall_mem_cons.2 ⟨?_, List.forall_mem_singleton.2 ?_⟩⟩⟩⟩
    · exact ⟨by simp [Action.footprint, hbd], .inl (by simp [Action.footprint, hbd]), .inr hkept.borrowerDebt.1,
        .inr hkept.borrowerDebt.2⟩
    · exact ⟨by simp [Action.footprint, hbc], .inr hkept.borrowerCollateral.1, .inl (by simp [Action.footprint, hbc]),
        .inr hkept.borrowerCollateral.2⟩
    · exact ⟨by simp [Action.footprint, hld], .inr hkept.liquidatorDebt.1, .inr hkept.liquidatorDebt.2,
        .inl (by simp [Action.footprint, hld])⟩
    · refine ⟨by simp [Action.footprint, hlc], .inr hkept.liquidatorCollateral.1,
        .inl (by simp [Action.footprint, hlc]), ?_⟩
      by_cases hs : terms.receiveSupply = true
      · exact .inr (hkept.liquidatorCollateral.2 hs)
      · exact .inl (by simp [Action.footprint, hlc, hs])
    · exact ⟨by simp [Action.footprint, ht], .inr hkept.treasury.1, .inl (by simp [Action.footprint, ht]),
        .inr hkept.treasury.2⟩

/-- **Every action writes within its footprint.** -/
theorem Effect.covered {now : Nat} {action : Action} (h : Effect now pool next action) (hp : pool.WellFormed) :
    ∃ rs ps, Writes pool next rs ps ∧ (action.footprint pool.config.treasury).Covers rs ps := by
  cases h with
  | account _ read result writes =>
    obtain ⟨hr, hq⟩ := accountOf_eq_ok read
    exact ⟨_, _, writes, account_covered (hp.asset hr) (hp.key_of_positionOf hq) result _⟩
  | setCollateral read result writes =>
    have hkey := hp.key_of_positionOf (accountOf_eq_ok read).2
    obtain ⟨howed, hwallet⟩ := Account.setCollateral_parts result
    refine ⟨_, _, writes, List.forall_mem_nil _, List.forall_mem_singleton.2 ?_⟩
    exact ⟨List.mem_singleton.2 hkey, .inr howed, .inl (List.mem_singleton.2 hkey), .inr hwallet⟩
  | selfTransfer market read result settled writes =>
    have hkey := hp.key_of_positionOf read
    obtain ⟨howed, hsupplied, hwallet⟩ := Position.accrue_parts settled
    refine ⟨_, _, writes, List.forall_mem_nil _, List.forall_mem_singleton.2 ?_⟩
    exact ⟨by simp [Action.footprint, hkey], .inr howed, .inr hsupplied, .inr hwallet⟩
  | transfer market readSender readRecipient result others writes =>
    have hs := hp.key_of_positionOf readSender
    have hr := hp.key_of_positionOf readRecipient
    have hkept := Transfer.perform_keeps result others
    refine ⟨_, _, writes, List.forall_mem_nil _, List.forall_mem_cons.2 ⟨?_, List.forall_mem_singleton.2 ?_⟩⟩
    · exact ⟨by simp [Action.footprint, hs], .inr hkept.senderOwed, .inl (by simp [Action.footprint, hs]),
        .inr hkept.senderWallet⟩
    · exact ⟨by simp [Action.footprint, hr], .inr hkept.recipientOwed, .inl (by simp [Action.footprint, hr]),
        .inr hkept.recipientWallet⟩
  | liquidation read debtSettings collateralSettings result writes =>
    exact ⟨_, _, writes, liquidation_covered hp (bookOf_eq_ok read) result⟩

/-! ## Frames -/

/-- the position in a place; one that was never written is empty -/
def positionAt (pool : Pool) (key : PositionKey) : Position :=
  (pool.positions.get? key).getD (.empty key.owner key.asset 0)

/-- `next` is `pool` outside of a footprint: the settings and the listed markets are the same, everything else that is
not in the footprint is as it was, and every market and every position is still in its place -/
structure Frame (pool next : Pool) (f : Footprint) : Prop where
  config : next.config = pool.config
  configs : next.configs = pool.configs
  listed : ∀ asset, next.reserves.Has asset ↔ pool.reserves.Has asset
  reserves : ∀ asset, asset ∉ f.markets → next.reserves.get? asset = pool.reserves.get? asset
  positions : ∀ key, key ∉ f.positions → next.positions.get? key = pool.positions.get? key
  owed : ∀ key, key ∉ f.debts → (next.positionAt key).owed = (pool.positionAt key).owed
  supplied : ∀ key, key ∉ f.supplies → (next.positionAt key).supplied = (pool.positionAt key).supplied
  wallet : ∀ key, key ∉ f.wallets → (next.positionAt key).wallet = (pool.positionAt key).wallet
  listing : ∀ asset r, pool.reserves.get? asset = some r →
    ∃ s, next.reserves.get? asset = some s ∧ s.listing = r.listing
  place : ∀ key p, pool.positions.get? key = some p →
    ∃ q, next.positions.get? key = some q ∧ q.owner = p.owner ∧ q.asset = p.asset
  newPlace : ∀ key q, next.positions.get? key = some q → q.key = key

namespace Writes

variable {rs : List (Reserve × Reserve)} {ps : List (Position × Position)}

/-- the position in a place has been written, or is as it was -/
theorem positionAt_cases (h : Writes pool next rs ps) (key : PositionKey) :
    (∃ w ∈ ps, w.1.key = key ∧ pool.positionAt key = w.1 ∧ next.positionAt key = w.2) ∨
      next.positionAt key = pool.positionAt key := by
  unfold positionAt
  by_cases hw : ∃ w ∈ ps, w.1.key = key
  · obtain ⟨w, hm, rfl⟩ := hw
    refine .inl ⟨w, hm, rfl, (positionOf_eq_ok.1 (h.position w hm).1).2.symm, ?_⟩
    rw [h.get?_position hm, Option.getD_some]
  · rw [h.get?_position_of_ne fun w hm he => hw ⟨w, hm, he⟩]
    exact .inr rfl

/-- a projection of positions changes only where one of the written positions has changed it -/
theorem positionAt_eq (h : Writes pool next rs ps) {α : Type} (f : Position → α) {places : List PositionKey}
    (hf : ∀ w ∈ ps, w.1.key ∈ places ∨ f w.2 = f w.1) {key : PositionKey} (hkey : key ∉ places) :
    f (next.positionAt key) = f (pool.positionAt key) := by
  rcases h.positionAt_cases key with ⟨w, hm, rfl, hbefore, hafter⟩ | hsame
  · rw [hbefore, hafter]
    exact (hf w hm).resolve_left hkey
  · rw [hsame]

theorem place (h : Writes pool next rs ps) (hp : pool.WellFormed) {key : PositionKey} {p : Position}
    (hq : pool.positions.get? key = some p) :
    ∃ q, next.positions.get? key = some q ∧ q.owner = p.owner ∧ q.asset = p.asset := by
  by_cases hw : ∃ w ∈ ps, w.1.key = key
  · obtain ⟨w, hm, rfl⟩ := hw
    have hkey : w.2.key = p.key := (h.position w hm).2.trans (hp.key hq).symm
    exact ⟨w.2, h.get?_position hm, congrArg PositionKey.owner hkey, congrArg PositionKey.asset hkey⟩
  · exact ⟨p, (h.get?_position_of_ne fun w hm he => hw ⟨w, hm, he⟩).trans hq, rfl, rfl⟩

theorem listing (h : Writes pool next rs ps) {asset : Address} {r : Reserve}
    (hr : pool.reserves.get? asset = some r) :
    ∃ s, next.reserves.get? asset = some s ∧ s.listing = r.listing := by
  by_cases hw : ∃ w ∈ rs, w.1.asset = asset
  · obtain ⟨w, hm, rfl⟩ := hw
    obtain ⟨hbefore, hlisting⟩ := h.reserve w hm
    obtain rfl := Option.some.inj (hbefore.symm.trans hr)
    exact ⟨w.2, h.get?_reserve hm, hlisting⟩
  · exact ⟨r, (h.get?_reserve_of_ne fun w hm he => hw ⟨w, hm, he⟩).trans hr, rfl⟩

/-- **What is written within a footprint leaves everything outside of it alone.** -/
theorem frame (h : Writes pool next rs ps) (hp : pool.WellFormed) {f : Footprint} (hc : f.Covers rs ps) :
    Frame pool next f where
  config := h.config_eq
  configs := h.configs_eq
  listed := h.has_iff
  reserves := by
    intro asset ha
    by_cases hw : ∃ w ∈ rs, w.1.asset = asset
    · obtain ⟨w, hm, rfl⟩ := hw
      rw [h.get?_reserve hm, (h.reserve w hm).1, (hc.markets w hm).resolve_left ha]
    · exact h.get?_reserve_of_ne fun w hm he => hw ⟨w, hm, he⟩
  positions := by
    intro key hk
    exact h.get?_position_of_ne fun w hm he => hk (he ▸ (hc.positions w hm).place)
  owed := fun _ hk => h.positionAt_eq Position.owed (fun w hm => (hc.positions w hm).owed) hk
  supplied := fun _ hk => h.positionAt_eq Position.supplied (fun w hm => (hc.positions w hm).supplied) hk
  wallet := fun _ hk => h.positionAt_eq Position.wallet (fun w hm => (hc.positions w hm).wallet) hk
  listing := fun _ _ hr => h.listing hr
  place := fun _ _ hq => h.place hp hq
  newPlace := fun _ _ hq => (h.wellFormed hp).key hq

end Writes

/-- every action leaves everything outside of its footprint alone -/
theorem Effect.frame {now : Nat} {action : Action} (h : Effect now pool next action) (hp : pool.WellFormed) :
    Frame pool next (action.footprint pool.config.treasury) := by
  obtain ⟨_, _, hw, hc⟩ := h.covered hp
  exact hw.frame hp hc

/-- **A request that goes through leaves everything outside of its footprint alone.** -/
theorem apply_frame (h : Reachable pool) {request : Request} (hn : pool.apply request = .ok next) :
    Frame pool next (request.action.footprint pool.config.treasury) :=
  (act_effect h.wellFormed hn).frame h.wellFormed

/-- a liquidation that takes supply writes the market of the debt and no other, and leaves the lender's position there
alone -/
theorem apply_frame_liquidation :
    ∃ pool next, runFrom Sample.poolConfig Sample.borrowed = .ok pool ∧
      pool.apply ⟨3600, Sample.liquidation true⟩ = .ok next ∧
      next.reserves.get? Sample.debt ≠ pool.reserves.get? Sample.debt ∧
      next.reserves.get? Sample.collateral = pool.reserves.get? Sample.collateral ∧
      next.positions.get? ⟨Sample.supplier, Sample.debt⟩ = pool.positions.get? ⟨Sample.supplier, Sample.debt⟩ := by
  obtain ⟨pool, hrun, hconfig, next, hn, hne⟩ :
      ∃ pool, runFrom Sample.poolConfig Sample.borrowed = .ok pool ∧ pool.config = Sample.poolConfig ∧
        ∃ next, pool.apply ⟨3600, Sample.liquidation true⟩ = .ok next ∧
          next.reserves.get? Sample.debt ≠ pool.reserves.get? Sample.debt := by
    decide +kernel
  have hreach : Reachable pool := Reaches.of_runFrom (fun _ _ => trivial) hrun
  have hframe := apply_frame hreach hn
  rw [hconfig] at hframe
  exact ⟨pool, next, hrun, hn, hne, hframe.reserves _ (by decide), hframe.positions _ (by decide)⟩

end Pool

end Lending
