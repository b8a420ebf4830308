/-
What every action on an account keeps.

A `Tally` is a quantity that a market keeps a total of and that its positions hold parts of: the scaled supply, or the
underlying, which is in the market's hands or in a wallet. Its gap on an account is the total less the part. `Moves`
says that the market only grows older, that the position stays in its place, and that neither gap changes. It is
reflexive and transitive, each step of an action has it, and so has every action (`perform_moves`).
-/
import Lending.Pool
import Lending.Proofs.AccountSteps

namespace Lending

open UInt256

/-! ## Tallies -/

/-- a quantity that a market keeps a total of; a position that was never written holds no part of it -/
structure Tally where
  total : Reserve → ℤ
  part : Position → ℤ
  part_empty : ∀ owner asset, part (.empty owner asset 0) = 0

namespace Tally

/-- the scaled supply -/
def supply : Tally := ⟨fun r => r.scaledSupply.toNat, fun p => p.scaledSupply.toNat, fun _ _ => rfl⟩

/-- the underlying: what the market holds and the wallets hold is counted against each other, so that the gap is the
sum of both -/
def cash : Tally := ⟨fun r => r.available.toNat, fun p => -(p.wallet.toNat : ℤ), fun _ _ => rfl⟩

/-- the tallies that no action adds to or takes from -/
def Conserved (t : Tally) : Prop := t = supply ∨ t = cash

/-- the total of an account's market less the part of its position -/
def gap (t : Tally) (account : Account) : ℤ := t.total account.reserve - t.part account.position

end Tally

namespace Account

/-! ## The relation -/

/-- `b` comes from `a` by moving supply and underlying between the market and the position -/
structure Moves (a b : Account) : Prop where
  grows : a.reserve.Grows b.reserve
  key : b.position.key = a.position.key
  supply : Tally.supply.gap b = Tally.supply.gap a
  cash : Tally.cash.gap b = Tally.cash.gap a

theorem Moves.refl (a : Account) : Moves a a := ⟨Reserve.Grows.refl _, rfl, rfl, rfl⟩

theorem Moves.trans {a b c : Account} (h1 : Moves a b) (h2 : Moves b c) : Moves a c :=
  ⟨h1.grows.trans h2.grows, h2.key.trans h1.key, h2.supply.trans h1.supply, h2.cash.trans h1.cash⟩

theorem Moves.gap {a b : Account} (h : Moves a b) {t : Tally} (ht : t.Conserved) : t.gap b = t.gap a := by
  rcases ht with rfl | rfl
  · exact h.supply
  · exact h.cash

/-! ## Accruing and settling -/

theorem accrue_moves {a b : Account} {now : Nat} (h : a.accrue now = .ok b) : a.Moves b := by
  obtain ⟨r, p, hr, hp, rfl⟩ := accrue_eq_ok h
  have hg := Reserve.accrue_grows hr
  obtain ⟨_, _, _, _, _, _, rfl, _⟩ := Reserve.accrue_eq_ok hr
  obtain ⟨_, _, _, _, rfl, _⟩ := Position.accrue_eq_ok hp
  exact ⟨hg, rfl, rfl, rfl⟩

theorem settle_moves {a b : Account} {now : Nat} (h : a.settle now = .ok b) : a.Moves b := by
  obtain ⟨p, hp, rfl⟩ := settle_eq_ok h
  obtain ⟨_, _, _, _, rfl, _⟩ := Position.accrue_eq_ok hp
  exact ⟨Reserve.Grows.refl _, rfl, rfl, rfl⟩

/-! ## Refreshing -/

/-- a refresh, and then supply that is minted or burnt: the wallet pays what the market is given and gets what is taken
from it, and the position gains or loses the supply that the market does -/
theorem refresh_supplied_moves {a : Account} {curve : RateCurve} {added taken total held wallet : UInt256}
    {collateral : Bool} {r : Reserve} (hr : a.reserve.refresh curve added taken = .ok r)
    (hsupply : total.toNat + a.position.scaledSupply.toNat = r.scaledSupply.toNat + held.toNat)
    (hcash : wallet.toNat + added.toNat = a.position.wallet.toNat + taken.toNat) :
    a.Moves ⟨{ r with scaledSupply := total }, { a.position with scaledSupply := held, collateral, wallet }⟩ := by
  have hgrows := (Reserve.refresh_grows hr).trans (r.grows_supplied total r.unbacked)
  obtain ⟨_, _, _, _, rfl, havailable, _⟩ := Reserve.refresh_spec hr
  dsimp only at hsupply
  refine ⟨hgrows, rfl, ?_, ?_⟩
  · simp only [Tally.gap, Tally.supply]
    omega
  · simp only [Tally.gap, Tally.cash]
    omega

/-- what the market pays out arrives in the wallet -/
theorem refresh_receive_moves {a : Account} {curve : RateCurve} {amount : UInt256} {r : Reserve} {p : Position}
    (hr : a.reserve.refresh curve 0 amount = .ok r) (hp : a.position.receive amount = .ok p) :
    a.Moves ⟨r, p⟩ := by
  obtain ⟨_, rfl, hreceived⟩ := Position.receive_spec hp
  exact refresh_supplied_moves hr rfl hreceived

/-- what the wallet pays arrives in the market -/
theorem refresh_spend_moves {a : Account} {curve : RateCurve} {amount : UInt256} {r : Reserve} {p : Position}
    (hr : a.reserve.refresh curve amount 0 = .ok r) (hp : a.position.spend amount = .ok p) :
    a.Moves ⟨r, p⟩ := by
  obtain ⟨_, rfl, hpaid⟩ := Position.spend_spec hp
  exact refresh_supplied_moves hr rfl hpaid

theorem refresh_moves {a : Account} {curve : RateCurve} {r : Reserve} (hr : a.reserve.refresh curve 0 0 = .ok r) :
    a.Moves { a with reserve := r } := refresh_supplied_moves hr rfl rfl

/-! ## Supply -/

theorem supply_moves {a b : Account} {curve : RateCurve} {amount : UInt256} (h : a.supply curve amount = .ok b) :
    a.Moves b := by
  obtain ⟨_, _, hr, _, _, _, _, _, _, rfl, htotal, hheld, _, hwallet⟩ := supply_spec h
  exact refresh_supplied_moves hr (by omega) hwallet

theorem withdraw_moves {a b : Account} {curve : RateCurve} {amount : UInt256} (h : a.withdraw curve amount = .ok b) :
    a.Moves b := by
  obtain ⟨_, _, _, _, _, _, hr, _, _, _, _, rfl, htotal, hheld, _, hwallet⟩ := withdraw_spec h
  exact refresh_supplied_moves hr (by omega) hwallet

/-! ## Debt -/

/-- taking debt on moves neither supply nor underlying -/
theorem takeOn_moves {a b : Account} {amount : UInt256} {now : Nat} {mode : RateMode}
    (h : a.takeOn amount now mode = .ok b) : a.Moves b := by
  cases mode with
  | variableRate =>
    obtain ⟨_, _, _, _, _, rfl, _⟩ := takeOn_variable_spec h
    exact ⟨⟨rfl, le_rfl, le_rfl, le_rfl, le_rfl⟩, rfl, rfl, rfl⟩
  | stableRate =>
    obtain ⟨_, _, _, _, rfl, _⟩ := takeOn_stable_spec h
    exact ⟨⟨rfl, le_rfl, le_rfl, le_rfl, le_rfl⟩, rfl, rfl, rfl⟩

/-- so does giving debt up -/
theorem giveUp_moves {a b : Account} {amount : UInt256} {now : Nat} {mode : RateMode}
    (h : a.giveUp amount now mode = .ok b) : a.Moves b := by
  cases mode with
  | variableRate =>
    obtain ⟨_, _, _, _, rfl, _⟩ := giveUp_variable_spec h
    exact ⟨⟨rfl, le_rfl, le_rfl, le_rfl, le_rfl⟩, rfl, rfl, rfl⟩
  | stableRate =>
    obtain ⟨_, _, _, _, _, rfl, _⟩ := giveUp_stable_spec h
    exact ⟨⟨rfl, le_rfl, le_rfl, le_rfl, le_rfl⟩, rfl, rfl, rfl⟩

theorem borrow_moves {a b : Account} {curve : RateCurve} {amount : UInt256} {mode : RateMode} {now : Nat}
    (h : a.borrow curve amount mode now = .ok b) : a.Moves b := by
  obtain ⟨_, taken, ht, hr, hp⟩ := borrow_eq_ok h
  exact (takeOn_moves ht).trans (refresh_receive_moves hr hp)

theorem repay_moves {a b : Account} {curve : RateCurve} {amount : UInt256} {mode : RateMode} {now : Nat}
    (h : a.repay curve amount mode now = .ok b) : a.Moves b := by
  obtain ⟨_, given, hgiven, hr, hp⟩ := repay_eq_ok h
  exact (giveUp_moves hgiven).trans (refresh_spend_moves hr hp)

theorem convert_moves {a b : Account} {curve : RateCurve} {source target : RateMode} {now : Nat}
    (h : a.convert curve source target now = .ok b) : a.Moves b := by
  obtain ⟨_, given, taken, hgiven, ht, r, hr, rfl⟩ := convert_eq_ok h
  exact ((giveUp_moves hgiven).trans (takeOn_moves ht)).trans (refresh_moves hr)

/-! ## Unbacked supply and flash loans -/

theorem mintUnbacked_moves {a b : Account} {config : ReserveConfig} {amount : UInt256}
    (h : a.mintUnbacked config amount = .ok b) : a.Moves b := by
  obtain ⟨unbacked, _, _, refreshed, _, hr, _, _, total, held, _, rfl, htotal, hheld, _⟩ := mintUnbacked_spec h
  have hminted : a.Moves { a with reserve := { a.reserve with unbacked } } :=
    ⟨a.reserve.grows_supplied a.reserve.scaledSupply unbacked, rfl, rfl, rfl⟩
  have hsupply : total.toNat + a.position.scaledSupply.toNat = refreshed.scaledSupply.toNat + held.toNat := by omega
  exact hminted.trans (refresh_supplied_moves hr hsupply rfl)

/-- a fee raises the index and the treasury's claim; what is unbacked counts for nothing here -/
theorem collect_moves {a : Account} {fee : SplitFee} {r : Reserve} (hc : a.reserve.collect fee = .ok r)
    (unbacked : UInt256) : a.Moves { a with reserve := { r with unbacked } } := by
  obtain ⟨_, _, rfl, hi, ht⟩ := Reserve.collect_spec hc
  exact ⟨⟨rfl, hi, le_rfl, ht, le_rfl⟩, rfl, rfl, rfl⟩

theorem backUnbacked_moves {a b : Account} {pool : PoolConfig} {curve : RateCurve} {amount fee : UInt256}
    (h : a.backUnbacked pool curve amount fee = .ok b) : a.Moves b := by
  obtain ⟨added, _, _, split, collected, _, hc, unbacked, _, hr, hp⟩ := backUnbacked_spec h
  exact (collect_moves hc unbacked).trans (refresh_spend_moves hr hp)

theorem flashLoan_moves {a b : Account} {pool : PoolConfig} {curve : RateCurve} {amount : UInt256}
    (h : a.flashLoan pool curve amount = .ok b) : a.Moves b := by
  obtain ⟨_, premium, collected, _, hc, hr, hp⟩ := flashLoan_spec h
  exact (collect_moves hc collected.unbacked).trans (refresh_spend_moves hr hp)

/-! ## All nine actions -/

theorem change_moves {a b : Account} {pool : PoolConfig} {config : ReserveConfig} {now : Nat} {action : AccountAction}
    (h : action.change pool config now a = .ok b) : a.Moves b := by
  cases action with
  | supply amount => exact supply_moves h
  | withdraw amount => exact withdraw_moves h
  | borrow amount mode => exact borrow_moves h
  | repay amount mode => exact repay_moves h
  | swapMode mode => exact convert_moves h
  | rebalance => exact convert_moves h
  | mintUnbacked amount => exact mintUnbacked_moves h
  | backUnbacked amount fee => exact backUnbacked_moves h
  | flashLoan amount => exact flashLoan_moves h

/-- **Every action on an account moves supply and underlying, and makes or loses none.** -/
theorem perform_moves {a b : Account} {pool : PoolConfig} {config : ReserveConfig} {now : Nat} {action : AccountAction}
    (h : a.perform pool config now action = .ok b) : a.Moves b := by
  obtain ⟨_, accrued, changed, ha, hc, h⟩ := perform_eq_ok h
  exact ((accrue_moves ha).trans (change_moves hc)).trans (settle_moves h)

/-- declaring supply collateral or not moves nothing -/
theorem setCollateral_moves {a : Account} {enabled : Bool} {now : Nat} {p : Position}
    (h : a.setCollateral enabled now = .ok p) : a.Moves { a with position := p } := by
  obtain ⟨accrued, ha, rfl, _⟩ := setCollateral_spec h
  obtain ⟨_, q, _, hq, rfl⟩ := accrue_eq_ok ha
  obtain ⟨_, _, _, _, rfl, _⟩ := Position.accrue_eq_ok hq
  exact ⟨Reserve.Grows.refl _, rfl, rfl, rfl⟩

end Account

/-- accruing a position changes no part it holds -/
theorem Position.accrue_part {p q : Position} {r : Reserve} {now : Nat} {t : Tally} (ht : t.Conserved)
    (h : p.accrue r now = .ok q) : t.part q = t.part p := by
  obtain ⟨_, _, _, _, rfl, _⟩ := Position.accrue_eq_ok h
  rcases ht with rfl | rfl <;> rfl

/-! ## Transfers -/

namespace Transfer

/-- the parts that both positions of a transfer hold -/
def parts (t : Tally) (transfer : Transfer) : ℤ := t.part transfer.sender + t.part transfer.recipient

/-- `b` comes from `a` by moving supply between the two positions -/
structure Moves (a b : Transfer) : Prop where
  sender : b.sender.key = a.sender.key
  recipient : b.recipient.key = a.recipient.key
  supply : b.parts .supply = a.parts .supply
  cash : b.parts .cash = a.parts .cash

theorem Moves.trans {a b c : Transfer} (h1 : Moves a b) (h2 : Moves b c) : Moves a c :=
  ⟨h2.sender.trans h1.sender, h2.recipient.trans h1.recipient, h2.supply.trans h1.supply, h2.cash.trans h1.cash⟩

/-- whether it is a transfer to oneself stays the same -/
theorem Moves.owners_iff {a b : Transfer} (h : Moves a b) :
    b.sender.owner = b.recipient.owner ↔ a.sender.owner = a.recipient.owner := by
  have hs : b.sender.owner = a.sender.owner := congrArg PositionKey.owner h.sender
  have hr : b.recipient.owner = a.recipient.owner := congrArg PositionKey.owner h.recipient
  rw [hs, hr]

theorem Moves.parts_eq {a b : Transfer} (h : Moves a b) {t : Tally} (ht : t.Conserved) : b.parts t = a.parts t := by
  rcases ht with rfl | rfl
  · exact h.supply
  · exact h.cash

theorem accrue_moves {a b : Transfer} {r : Reserve} {now : Nat} (h : a.accrue r now = .ok b) : a.Moves b := by
  obtain ⟨s, p, hs, hp, rfl⟩ := accrue_eq_ok h
  obtain ⟨_, _, _, _, rfl, _⟩ := Position.accrue_eq_ok hs
  obtain ⟨_, _, _, _, rfl, _⟩ := Position.accrue_eq_ok hp
  exact ⟨rfl, rfl, rfl, rfl⟩

theorem move_moves {a b : Transfer} {r : Reserve} {amount : UInt256} (h : a.move r amount = .ok b) : a.Moves b := by
  obtain ⟨scaled, _, left, arrived, _, _, rfl, hleft, harrived, _⟩ := move_spec h
  refine ⟨rfl, rfl, ?_, rfl⟩
  simp only [parts, Tally.supply]
  omega

/-- between two users, what leaves the sender arrives at the recipient -/
theorem perform_moves {a b : Transfer} {r : Reserve} {amount : UInt256} {now : Nat}
    (h : a.perform r amount now = .ok b) (hne : a.sender.owner ≠ a.recipient.owner) : a.Moves b := by
  obtain ⟨_, reserve, accrued, _, ha, _, h⟩ := perform_eq_ok h
  have hm := accrue_moves ha
  rw [if_neg (mt hm.owners_iff.1 hne)] at h
  obtain ⟨moved, hmoved, h⟩ := h
  exact (hm.trans (move_moves hmoved)).trans (accrue_moves h)

/-- a transfer to oneself only accrues, and gives the sender's position back twice -/
theorem perform_self {a b : Transfer} {r : Reserve} {amount : UInt256} {now : Nat}
    (h : a.perform r amount now = .ok b) (he : a.sender.owner = a.recipient.owner) :
    b.recipient = b.sender ∧ ∃ accrued, r.accrue now = .ok accrued ∧ a.sender.accrue accrued now = .ok b.sender := by
  obtain ⟨_, reserve, accrued, hr, ha, _, h⟩ := perform_eq_ok h
  rw [if_pos ((accrue_moves ha).owners_iff.2 he)] at h
  subst h
  obtain ⟨_, _, hs, _, rfl⟩ := accrue_eq_ok ha
  exact ⟨rfl, reserve, hr, hs⟩

end Transfer

end Lending
