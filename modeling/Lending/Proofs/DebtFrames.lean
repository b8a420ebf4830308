/-
Which steps of an action leave every debt alone.

Supply, unbacked supply, fees, collateral that is seized and everything that only moves underlying change no debt of
either kind, neither that of a market nor that of a position, and no time passes in them. `SameDebts` says so, of a
market, a position, an account and the book of a liquidation; what holds of a debt through these steps follows from it.
-/
import Lending.Proofs.LiquidationSteps

namespace Lending

open UInt256

/-! ## Markets and positions -/

/-- `s` owes what `r` owes, at the same time and at the same index -/
structure Reserve.SameDebts (r s : Reserve) : Prop where
  listing : s.listing = r.listing
  lastUpdate : s.lastUpdate = r.lastUpdate
  debtIndex : s.debtIndex = r.debtIndex
  scaledVariableDebt : s.scaledVariableDebt = r.scaledVariableDebt
  averageStableRate : s.averageStableRate = r.averageStableRate
  totalStableDebt : s.totalStableDebt = r.totalStableDebt
  principalStableDebt : s.principalStableDebt = r.principalStableDebt
  stableDebtUpdated : s.stableDebtUpdated = r.stableDebtUpdated

theorem Reserve.SameDebts.refl (r : Reserve) : r.SameDebts r := ⟨rfl, rfl, rfl, rfl, rfl, rfl, rfl, rfl⟩

theorem Reserve.SameDebts.trans {r s t : Reserve} (h1 : r.SameDebts s) (h2 : s.SameDebts t) : r.SameDebts t where
  listing := h2.listing.trans h1.listing
  lastUpdate := h2.lastUpdate.trans h1.lastUpdate
  debtIndex := h2.debtIndex.trans h1.debtIndex
  scaledVariableDebt := h2.scaledVariableDebt.trans h1.scaledVariableDebt
  averageStableRate := h2.averageStableRate.trans h1.averageStableRate
  totalStableDebt := h2.totalStableDebt.trans h1.totalStableDebt
  principalStableDebt := h2.principalStableDebt.trans h1.principalStableDebt
  stableDebtUpdated := h2.stableDebtUpdated.trans h1.stableDebtUpdated

/-- supply, backed or not, is nobody's debt -/
theorem Reserve.sameDebts_supplied (r : Reserve) (scaledSupply unbacked : UInt256) :
    r.SameDebts { r with scaledSupply, unbacked } := ⟨rfl, rfl, rfl, rfl, rfl, rfl, rfl, rfl⟩

/-- `q` owes what `p` owes -/
structure Position.SameDebts (p q : Position) : Prop where
  scaledVariableDebt : q.scaledVariableDebt = p.scaledVariableDebt
  principalStableDebt : q.principalStableDebt = p.principalStableDebt
  stableDebt : q.stableDebt = p.stableDebt
  stableRate : q.stableRate = p.stableRate
  stableUpdated : q.stableUpdated = p.stableUpdated

theorem Position.SameDebts.refl (p : Position) : p.SameDebts p := ⟨rfl, rfl, rfl, rfl, rfl⟩

theorem Position.SameDebts.trans {p q r : Position} (h1 : p.SameDebts q) (h2 : q.SameDebts r) : p.SameDebts r where
  scaledVariableDebt := h2.scaledVariableDebt.trans h1.scaledVariableDebt
  principalStableDebt := h2.principalStableDebt.trans h1.principalStableDebt
  stableDebt := h2.stableDebt.trans h1.stableDebt
  stableRate := h2.stableRate.trans h1.stableRate
  stableUpdated := h2.stableUpdated.trans h1.stableUpdated

/-- what a position has, and whether it counts as collateral, is no debt -/
theorem Position.sameDebts_supplied (p : Position) (scaledSupply wallet : UInt256) (collateral : Bool) :
    p.SameDebts { p with scaledSupply, collateral, wallet } := ⟨rfl, rfl, rfl, rfl, rfl⟩

theorem Reserve.refresh_sameDebts {r s : Reserve} {curve : RateCurve} {added taken : UInt256}
    (h : r.refresh curve added taken = .ok s) : r.SameDebts s := by
  obtain ⟨_, _, _, _, rfl, _⟩ := refresh_spec h
  exact ⟨rfl, rfl, rfl, rfl, rfl, rfl, rfl, rfl⟩

/-- collecting a fee owes nobody anything, whatever is unbacked afterwards -/
theorem Reserve.collect_sameDebts {r s : Reserve} {fee : SplitFee} (h : r.collect fee = .ok s) (unbacked : UInt256) :
    r.SameDebts { s with unbacked } := by
  obtain ⟨_, _, rfl, _⟩ := collect_spec h
  exact ⟨rfl, rfl, rfl, rfl, rfl, rfl, rfl, rfl⟩

namespace Position

variable {p q : Position} {amount scaled : UInt256}

theorem spend_sameDebts (h : p.spend amount = .ok q) : p.SameDebts q := by
  obtain ⟨_, rfl, _⟩ := spend_spec h
  exact p.sameDebts_supplied _ _ _

theorem receive_sameDebts (h : p.receive amount = .ok q) : p.SameDebts q := by
  obtain ⟨_, rfl, _⟩ := receive_spec h
  exact p.sameDebts_supplied _ _ _

theorem addSupply_sameDebts (h : p.addSupply scaled = .ok q) : p.SameDebts q := by
  obtain ⟨_, _, rfl, _⟩ := addSupply_spec h
  exact p.sameDebts_supplied _ _ _

theorem removeSupply_sameDebts (h : p.removeSupply scaled = .ok q) : p.SameDebts q := by
  obtain ⟨_, _, rfl, _⟩ := removeSupply_spec h
  exact p.sameDebts_supplied _ _ _

theorem creditSupply_sameDebts (h : p.creditSupply scaled = .ok q) : p.SameDebts q := by
  obtain ⟨_, rfl, _⟩ := creditSupply_spec h
  exact p.sameDebts_supplied _ _ _

end Position

/-! ## Accounts -/

namespace Account

/-- neither the market nor the position of `b` owes anything else than that of `a` -/
structure SameDebts (a b : Account) : Prop where
  market : a.reserve.SameDebts b.reserve
  position : a.position.SameDebts b.position

variable {a b : Account} {curve : RateCurve} {amount : UInt256}

/-- refreshing the rates of a market owes nobody anything, when the position is only paid or pays -/
theorem refresh_sameDebts {added taken : UInt256} {r : Reserve} {p : Position}
    (hr : a.reserve.refresh curve added taken = .ok r) (hp : a.position.SameDebts p) : a.SameDebts ⟨r, p⟩ :=
  ⟨Reserve.refresh_sameDebts hr, hp⟩

/-- nor does supply that is minted or burnt, and what the wallet pays or gets for it -/
theorem SameDebts.supplied (h : a.SameDebts b) (total held wallet : UInt256) (collateral : Bool) :
    a.SameDebts ⟨{ b.reserve with scaledSupply := total },
      { b.position with scaledSupply := held, collateral, wallet }⟩ where
  market := h.market.trans (b.reserve.sameDebts_supplied total b.reserve.unbacked)
  position := h.position.trans (b.position.sameDebts_supplied held wallet collateral)

theorem supply_sameDebts (h : a.supply curve amount = .ok b) : a.SameDebts b := by
  obtain ⟨_, _, hr, _, _, total, held, wallet, collateral, rfl, _⟩ := supply_spec h
  exact (refresh_sameDebts hr (.refl _)).supplied total held wallet collateral

theorem withdraw_sameDebts (h : a.withdraw curve amount = .ok b) : a.SameDebts b := by
  obtain ⟨_, _, _, _, _, _, hr, total, held, wallet, collateral, rfl, _⟩ := withdraw_spec h
  exact (refresh_sameDebts hr (.refl _)).supplied total held wallet collateral

theorem mintUnbacked_sameDebts {config : ReserveConfig} (h : a.mintUnbacked config amount = .ok b) :
    a.SameDebts b := by
  obtain ⟨unbacked, _, _, refreshed, _, hr, _, _, total, held, collateral, rfl, _⟩ := mintUnbacked_spec h
  have hminted := a.reserve.sameDebts_supplied a.reserve.scaledSupply unbacked
  have hrefreshed : a.SameDebts ⟨refreshed, a.position⟩ := ⟨hminted.trans (Reserve.refresh_sameDebts hr), .refl _⟩
  exact hrefreshed.supplied total held a.position.wallet collateral

theorem backUnbacked_sameDebts {pool : PoolConfig} {fee : UInt256} (h : a.backUnbacked pool curve amount fee = .ok b) :
    a.SameDebts b := by
  obtain ⟨_, _, _, _, _, _, hc, unbacked, _, hr, hp⟩ := backUnbacked_spec h
  have hm := (Reserve.collect_sameDebts hc unbacked).trans (Reserve.refresh_sameDebts hr)
  exact ⟨hm, Position.spend_sameDebts hp⟩

theorem flashLoan_sameDebts {pool : PoolConfig} (h : a.flashLoan pool curve amount = .ok b) : a.SameDebts b := by
  obtain ⟨_, _, collected, _, hc, hr, hp⟩ := flashLoan_spec h
  have hm := (Reserve.collect_sameDebts hc collected.unbacked).trans (Reserve.refresh_sameDebts hr)
  exact ⟨hm, Position.spend_sameDebts hp⟩

end Account

/-! ## Liquidations -/

namespace Liquidation

/-- every position of `q` owes what the same position of `p` owes -/
structure Parties.SameDebts (p q : Parties) : Prop where
  borrowerDebt : p.borrowerDebt.SameDebts q.borrowerDebt
  borrowerCollateral : p.borrowerCollateral.SameDebts q.borrowerCollateral
  liquidatorDebt : p.liquidatorDebt.SameDebts q.liquidatorDebt
  liquidatorCollateral : p.liquidatorCollateral.SameDebts q.liquidatorCollateral
  treasury : p.treasury.SameDebts q.treasury

theorem Parties.SameDebts.refl (p : Parties) : p.SameDebts p := ⟨.refl _, .refl _, .refl _, .refl _, .refl _⟩

theorem Parties.SameDebts.trans {p q r : Parties} (h1 : p.SameDebts q) (h2 : q.SameDebts r) : p.SameDebts r where
  borrowerDebt := h1.borrowerDebt.trans h2.borrowerDebt
  borrowerCollateral := h1.borrowerCollateral.trans h2.borrowerCollateral
  liquidatorDebt := h1.liquidatorDebt.trans h2.liquidatorDebt
  liquidatorCollateral := h1.liquidatorCollateral.trans h2.liquidatorCollateral
  treasury := h1.treasury.trans h2.treasury

namespace Book

/-- neither market and no position of `b` owes anything else than that of `a` -/
structure SameDebts (a b : Book) : Prop where
  debtReserve : a.debtReserve.SameDebts b.debtReserve
  collateralReserve : a.collateralReserve.SameDebts b.collateralReserve
  parties : a.parties.SameDebts b.parties

variable {a b c : Book} {curve : RateCurve} {amount scaled : UInt256} {receiveSupply : Bool}

theorem SameDebts.refl (a : Book) : a.SameDebts a := ⟨.refl _, .refl _, .refl _⟩

theorem SameDebts.trans (h1 : a.SameDebts b) (h2 : b.SameDebts c) : a.SameDebts c :=
  ⟨h1.debtReserve.trans h2.debtReserve, h1.collateralReserve.trans h2.collateralReserve, h1.parties.trans h2.parties⟩

/-- the two positions that collateral passes between owe nothing more and nothing less for it -/
theorem take_sameDebts (h : a.take curve amount scaled receiveSupply = .ok b) : a.SameDebts b := by
  unfold take at h
  split at h
  · obtain ⟨_, _, hp, hq, rfl⟩ := seizeSupply_spec h
    exact { SameDebts.refl a with
      parties := { Parties.SameDebts.refl a.parties with
        borrowerCollateral := Position.removeSupply_sameDebts hp
        liquidatorCollateral := Position.addSupply_sameDebts hq } }
  · obtain ⟨_, refreshed, _, _, hr, hp, hq, total, rfl, _⟩ := seizeUnderlying_spec h
    exact { SameDebts.refl a with
      collateralReserve := (Reserve.refresh_sameDebts hr).trans (refreshed.sameDebts_supplied total refreshed.unbacked)
      parties := { Parties.SameDebts.refl a.parties with
        borrowerCollateral := Position.removeSupply_sameDebts hp
        liquidatorCollateral := Position.receive_sameDebts hq } }

theorem chargeFee_sameDebts (h : a.chargeFee scaled = .ok b) : a.SameDebts b := by
  rcases chargeFee_cases h with ⟨_, rfl⟩ | ⟨_, _, hp, hq, rfl⟩
  · exact SameDebts.refl _
  · exact { SameDebts.refl a with
      parties := { Parties.SameDebts.refl a.parties with
        borrowerCollateral := Position.removeSupply_sameDebts hp
        treasury := Position.creditSupply_sameDebts hq } }

theorem dropCollateral_sameDebts (a : Book) : a.SameDebts a.dropCollateral :=
  { SameDebts.refl a with
    parties := { Parties.SameDebts.refl a.parties with
      borrowerCollateral := a.parties.borrowerCollateral.sameDebts_supplied _ _ _ } }

theorem seize_sameDebts {amounts : Amounts} (h : a.seize curve amounts receiveSupply = .ok b) : a.SameDebts b := by
  obtain ⟨_, taken, charged, _, ht, hc, rfl⟩ := seize_spec h
  have hcharged : a.SameDebts charged := (take_sameDebts ht).trans (chargeFee_sameDebts hc)
  split
  · exact hcharged.trans (dropCollateral_sameDebts charged)
  · exact hcharged

end Book

end Liquidation

end Lending
