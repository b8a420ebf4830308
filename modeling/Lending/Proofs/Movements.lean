/-
What the plain actions move.

Supplying and withdrawing, minting unbacked supply, and borrowing and repaying at the variable rate are plain: on an
account that is accrued to the moment they move underlying, supply and variable debt, and do nothing else. How much they
move depends on the indices of the market and on the position, but not on how much of anything the market has. So at one
time a plain action moves the same amounts, whatever others have moved before it.

Results:
- `Account.change_movesBy`: a plain action makes the movement that `AccountAction.movement` computes;
- `Account.Alike.movement`: which is the same on accounts that are alike;
- `Account.perform_alike`, `Transfer.perform_alike`: so in markets with the same base the same action makes the same
  change, and leaves positions that differ in nothing but the rate that they earn;
- `Reserve.Coherent.eq_of_base`: a coherent market is determined by its base and by how much of everything it has.
-/
import Lending.Proofs.Coherence
import Lending.Proofs.VariableDebt

namespace Lending

open UInt256

/-! ## Markets that differ in what they have -/

namespace Reserve

/-- what plain actions leave alone of a market that is accrued to the moment: all but its amounts of underlying, supply
and variable debt, and the rates that depend on them -/
def base (r : Reserve) : Reserve :=
  { r with
    rates := ⟨0, 0, 0, ⟨0, 0⟩⟩, scaledVariableDebt := 0, totalVariableDebt := 0, available := 0, totalLiquidity := 0
    unbacked := 0, scaledSupply := 0 }

/-- from `s` to `s'` the amounts change by what they change by from `r` to `r'` -/
structure SameChange (r r' s s' : Reserve) : Prop where
  available : r'.available.toNat + s.available.toNat = s'.available.toNat + r.available.toNat
  unbacked : r'.unbacked.toNat + s.unbacked.toNat = s'.unbacked.toNat + r.unbacked.toNat
  scaledSupply : r'.scaledSupply.toNat + s.scaledSupply.toNat = s'.scaledSupply.toNat + r.scaledSupply.toNat
  scaledVariableDebt :
    r'.scaledVariableDebt.toNat + s.scaledVariableDebt.toNat = s'.scaledVariableDebt.toNat + r.scaledVariableDebt.toNat

theorem SameChange.refl (r s : Reserve) : SameChange r r s s :=
  ⟨Nat.add_comm _ _, Nat.add_comm _ _, Nat.add_comm _ _, Nat.add_comm _ _⟩

variable {r s : Reserve}

theorem liquidityIndex_of_base (h : s.base = r.base) : s.liquidityIndex = r.liquidityIndex :=
  (congrArg Reserve.liquidityIndex h :)

theorem debtIndex_of_base (h : s.base = r.base) : s.debtIndex = r.debtIndex := (congrArg Reserve.debtIndex h :)

theorem scaleSupply_of_base (h : s.base = r.base) (amount : UInt256) : s.scaleSupply amount = r.scaleSupply amount := by
  unfold scaleSupply
  rw [liquidityIndex_of_base h]

theorem scaleDebt_of_base (h : s.base = r.base) (amount : UInt256) : s.scaleDebt amount = r.scaleDebt amount := by
  unfold scaleDebt
  rw [debtIndex_of_base h]

/-- **A coherent market is determined by its base and by how much of everything it has.** -/
theorem Coherent.eq_of_base {config : ReserveConfig} (hr : r.Coherent config) (hs : s.Coherent config)
    (hbase : s.base = r.base) (havailable : s.available = r.available) (hunbacked : s.unbacked = r.unbacked)
    (hsupply : s.scaledSupply = r.scaledSupply) (hdebt : s.scaledVariableDebt = r.scaledVariableDebt) : s = r := by
  have hliquidity : s.totalLiquidity = r.totalLiquidity := by
    apply ext
    rw [hs.liquidity, hr.liquidity, havailable, hunbacked]
  have hvariable : s.totalVariableDebt = r.totalVariableDebt := by
    have hworth := hs.variableDebt
    rw [hdebt, debtIndex_of_base hbase] at hworth
    exact Except.ok.inj (hworth.symm.trans hr.variableDebt)
  have hbalances : s.balances = r.balances := by
    have hstable : s.totalStableDebt = r.totalStableDebt := (congrArg Reserve.totalStableDebt hbase :)
    have haverage : s.averageStableRate = r.averageStableRate := (congrArg Reserve.averageStableRate hbase :)
    have hlisting : s.listing = r.listing := (congrArg Reserve.listing hbase :)
    simp only [balances, hstable, hvariable, haverage, havailable, hunbacked, hlisting]
  have hrates : s.rates = r.rates := by
    have hcurve := hs.rates
    rw [hbalances] at hcurve
    exact Except.ok.inj (hcurve.symm.trans hr.rates)
  calc s = { s.base with
        rates := s.rates, scaledVariableDebt := s.scaledVariableDebt, totalVariableDebt := s.totalVariableDebt
        available := s.available, totalLiquidity := s.totalLiquidity, unbacked := s.unbacked
        scaledSupply := s.scaledSupply } := rfl
    _ = r := by rw [hbase, hrates, hdebt, hvariable, havailable, hliquidity, hunbacked, hsupply]; rfl

end Reserve

/-! ## Positions that earn different rates -/

namespace Position

/-- `q` differs from `p` in nothing but the rate that its supply earns -/
def Rerated (p q : Position) : Prop := ∃ rate, q = { p with liquidityRate := rate }

theorem Rerated.of_eq {p q : Position} (h : q = p) : p.Rerated q := ⟨p.liquidityRate, h⟩

/-- positions that are alike stay alike in markets with the same base -/
theorem accrue_alike {p p' q q' : Position} {r s : Reserve} {now : Nat} (hbase : s.base = r.base) (h : p.Rerated q)
    (hp : p.accrue r now = .ok p') (hq : q.accrue s now = .ok q') : p'.Rerated q' := by
  obtain ⟨rate, rfl⟩ := h
  obtain ⟨_, supply, variableDebt, stableDebt, rfl, hs, hv, hd⟩ := accrue_eq_ok hp
  obtain ⟨_, supply', variableDebt', stableDebt', rfl, hs', hv', hd'⟩ := accrue_eq_ok hq
  rw [Reserve.liquidityIndex_of_base hbase] at hs'
  rw [Reserve.debtIndex_of_base hbase] at hv'
  obtain rfl := Except.ok.inj (hs.symm.trans hs')
  obtain rfl := Except.ok.inj (hv.symm.trans hv')
  obtain rfl := Except.ok.inj (hd.symm.trans hd')
  exact ⟨_, rfl⟩

end Position

/-! ## Movements -/

/-- the amounts that an action moves, and whether the supply counts as collateral afterwards -/
structure Movement where
  /-- underlying that the wallet pays into the market -/
  paid : UInt256
  /-- underlying that the wallet draws from the market -/
  drawn : UInt256
  unbacked : UInt256
  minted : UInt256
  burnt : UInt256
  borrowed : UInt256
  repaid : UInt256
  collateral : Bool
  deriving DecidableEq, Repr

/-- nothing is moved -/
def Movement.rest (collateral : Bool) : Movement := ⟨0, 0, 0, 0, 0, 0, 0, collateral⟩

namespace AccountAction

/-- the actions that move underlying, supply and variable debt, and do nothing else -/
def Plain : AccountAction → Prop
  | supply _ | withdraw _ | mintUnbacked _ => True
  | borrow _ mode | repay _ mode => mode = .variableRate
  | swapMode _ | rebalance | backUnbacked _ _ | flashLoan _ => False

/-- what a plain action moves -/
def movement (a : Account) : AccountAction → Checked Movement
  | supply amount => do
    let minted ← a.reserve.scaleSupply amount
    let first := decide (a.position.scaledSupply = 0 ∧ minted ≠ 0)
    return { Movement.rest (first || a.position.collateral) with paid := amount, minted }
  | withdraw amount => do
    let burnt ← a.position.scaledPart (a.withdrawn amount) a.reserve
    let left := decide (a.position.scaledSupply ≠ burnt)
    return { Movement.rest (left && a.position.collateral) with drawn := a.withdrawn amount, burnt }
  | mintUnbacked amount => do
    let minted ← a.reserve.scaleSupply amount
    let first := decide (a.position.scaledSupply = 0 ∧ minted ≠ 0)
    return { Movement.rest (first || a.position.collateral) with unbacked := amount, minted }
  | borrow amount _ => do
    let borrowed ← a.reserve.scaleDebt amount
    return { Movement.rest a.position.collateral with drawn := amount, borrowed }
  | repay amount _ => do
    let paid := min amount a.position.variableDebt
    let repaid ← a.position.scaledDebtPart paid a.reserve
    return { Movement.rest a.position.collateral with paid, repaid }
  | swapMode _ | rebalance | backUnbacked _ _ | flashLoan _ => return .rest a.position.collateral

end AccountAction

namespace Account

/-- `b` is `a` after a movement -/
structure MovesBy (m : Movement) (a b : Account) : Prop where
  base : b.reserve.base = a.reserve.base
  available : b.reserve.available.toNat + m.drawn.toNat = a.reserve.available.toNat + m.paid.toNat
  unbacked : b.reserve.unbacked.toNat = a.reserve.unbacked.toNat + m.unbacked.toNat
  scaledSupply : b.reserve.scaledSupply.toNat + m.burnt.toNat = a.reserve.scaledSupply.toNat + m.minted.toNat
  scaledVariableDebt :
    b.reserve.scaledVariableDebt.toNat + m.repaid.toNat = a.reserve.scaledVariableDebt.toNat + m.borrowed.toNat
  position : b.position = { a.position with
    scaledSupply := b.position.scaledSupply, collateral := m.collateral
    scaledVariableDebt := b.position.scaledVariableDebt, wallet := b.position.wallet }
  held : b.position.scaledSupply.toNat + m.burnt.toNat = a.position.scaledSupply.toNat + m.minted.toNat
  owed :
    b.position.scaledVariableDebt.toNat + m.repaid.toNat = a.position.scaledVariableDebt.toNat + m.borrowed.toNat
  wallet : b.position.wallet.toNat + m.paid.toNat = a.position.wallet.toNat + m.drawn.toNat

/-- two accounts have the same base, and positions that differ in nothing but the rate they earn -/
structure Alike (a c : Account) : Prop where
  base : c.reserve.base = a.reserve.base
  position : a.position.Rerated c.position

variable {a b c d : Account} {m : Movement} {amount : UInt256} {now : Nat} {curve : RateCurve}

/-- the same movement makes the same change -/
theorem MovesBy.alike (hb : MovesBy m a b) (hd : MovesBy m c d) (h : a.Alike c) :
    b.Alike d ∧ Reserve.SameChange a.reserve b.reserve c.reserve d.reserve := by
  obtain ⟨rate, hrate⟩ := h.position
  have hheld := hd.held
  have howed := hd.owed
  have hwallet := hd.wallet
  rw [hrate] at hheld howed hwallet
  dsimp only at hheld howed hwallet
  have hsupply : d.position.scaledSupply = b.position.scaledSupply := ext (by have := hb.held; omega)
  have hdebt : d.position.scaledVariableDebt = b.position.scaledVariableDebt := ext (by have := hb.owed; omega)
  have hcash : d.position.wallet = b.position.wallet := ext (by have := hb.wallet; omega)
  refine ⟨⟨hd.base.trans (h.base.trans hb.base.symm), rate, ?_⟩, ?_⟩
  · rw [hd.position, hb.position, hsupply, hdebt, hcash, hrate]
  · have h1 := hb.available
    have h2 := hb.unbacked
    have h3 := hb.scaledSupply
    have h4 := hb.scaledVariableDebt
    have h1' := hd.available
    have h2' := hd.unbacked
    have h3' := hd.scaledSupply
    have h4' := hd.scaledVariableDebt
    constructor <;> omega

/-! ### What each plain action moves -/

theorem supply_movesBy (h : a.supply curve amount = .ok b) :
    ∃ m, (AccountAction.supply amount).movement a = .ok m ∧ MovesBy m a b := by
  obtain ⟨_, scaled, hr, hs, _, total, held, wallet, _, rfl, htotal, hheld, rfl, hwallet⟩ := supply_spec h
  obtain ⟨_, _, _, _, rfl, hav, _⟩ := Reserve.refresh_spec hr
  refine ⟨_, bind_eq_ok.2 ⟨scaled, hs, rfl⟩, rfl, hav, rfl, htotal, rfl, rfl, hheld, rfl, ?_⟩
  exact hwallet

theorem withdraw_movesBy (h : a.withdraw curve amount = .ok b) :
    ∃ m, (AccountAction.withdraw amount).movement a = .ok m ∧ MovesBy m a b := by
  obtain ⟨_, _, _, scaled, _, hs, hr, total, held, wallet, _, rfl, htotal, hheld, rfl, hwallet⟩ := withdraw_spec h
  obtain ⟨_, _, _, _, rfl, hav, _⟩ := Reserve.refresh_spec hr
  have hempty : held ≠ 0 ↔ a.position.scaledSupply ≠ scaled := by
    refine not_congr ⟨fun h0 => ext ?_, fun he => ext ?_⟩
    · rw [← hheld, h0, toNat_zero, Nat.zero_add]
    · rw [he] at hheld
      rw [toNat_zero]
      omega
  refine ⟨_, bind_eq_ok.2 ⟨scaled, hs, rfl⟩, rfl, hav, rfl, htotal, rfl, ?_, hheld, rfl, hwallet⟩
  simp only [Movement.rest, hempty]

theorem mintUnbacked_movesBy {config : ReserveConfig} (h : a.mintUnbacked config amount = .ok b) :
    ∃ m, (AccountAction.mintUnbacked amount).movement a = .ok m ∧ MovesBy m a b := by
  obtain ⟨_, hunbacked, _, _, scaled, hr, hs, _, total, held, _, rfl, htotal, hheld, rfl⟩ := mintUnbacked_spec h
  obtain ⟨_, _, _, _, rfl, hav, _⟩ := Reserve.refresh_spec hr
  exact ⟨_, bind_eq_ok.2 ⟨scaled, hs, rfl⟩, rfl, hav, hunbacked, htotal, rfl, rfl, hheld, rfl, rfl⟩

theorem borrow_movesBy (h : a.borrow curve amount .variableRate now = .ok b) :
    ∃ m, (AccountAction.borrow amount .variableRate).movement a = .ok m ∧ MovesBy m a b := by
  obtain ⟨_, taken, ht, hr, hp⟩ := borrow_eq_ok h
  obtain ⟨scaled, hs, total, worth, held, rfl, htotal, hheld⟩ := takeOn_variable_spec ht
  obtain ⟨_, _, _, _, hreserve, hav, _⟩ := Reserve.refresh_spec hr
  obtain ⟨wallet, hposition, hwallet⟩ := Position.receive_spec hp
  obtain ⟨r, p⟩ := b
  dsimp only at hreserve hposition
  subst hreserve hposition
  exact ⟨_, bind_eq_ok.2 ⟨scaled, hs, rfl⟩, rfl, hav, rfl, rfl, htotal, rfl, rfl, hheld, hwallet⟩

theorem repay_movesBy (hc : a.CoversDebt) (h : a.repay curve amount .variableRate now = .ok b) :
    ∃ m, (AccountAction.repay amount .variableRate).movement a = .ok m ∧ MovesBy m a b := by
  obtain ⟨_, given, hg, hr, hp⟩ := repay_eq_ok h
  obtain ⟨scaled, hs, hshifts⟩ := giveUp_variable_shifts hc hg
  obtain ⟨_, hs', worth, held, rfl, hheld⟩ := giveUp_variable_spec hg
  obtain ⟨_, _, _, _, hreserve, hav, _⟩ := Reserve.refresh_spec hr
  obtain ⟨wallet, hposition, hwallet⟩ := Position.spend_spec hp
  obtain ⟨r, p⟩ := b
  dsimp only at hreserve hposition
  subst hreserve hposition
  exact ⟨_, bind_eq_ok.2 ⟨scaled, hs, rfl⟩, rfl, hav, rfl, rfl, hshifts.market, rfl, rfl, hshifts.position, hwallet⟩

/-! ### Two accounts that are alike -/

theorem Alike.scaledPart (h : a.Alike c) (amount : UInt256) :
    c.position.scaledPart amount c.reserve = a.position.scaledPart amount a.reserve := by
  obtain ⟨rate, hrate⟩ := h.position
  unfold Position.scaledPart
  rw [hrate, Reserve.scaleSupply_of_base h.base]

theorem Alike.scaledDebtPart (h : a.Alike c) (amount : UInt256) :
    c.position.scaledDebtPart amount c.reserve = a.position.scaledDebtPart amount a.reserve := by
  obtain ⟨rate, hrate⟩ := h.position
  unfold Position.scaledDebtPart
  rw [hrate, Reserve.scaleDebt_of_base h.base]

/-- **What an action moves is the same on accounts that are alike.** -/
theorem Alike.movement (h : a.Alike c) (action : AccountAction) : action.movement c = action.movement a := by
  have hpart := h.scaledPart
  have hdebtPart := h.scaledDebtPart
  obtain ⟨rate, hrate⟩ := h.position
  rw [hrate] at hpart hdebtPart
  cases action with
  | supply amount => simp only [AccountAction.movement, Reserve.scaleSupply_of_base h.base, hrate]
  | withdraw amount => simp only [AccountAction.movement, withdrawn, hpart, hrate]
  | mintUnbacked amount => simp only [AccountAction.movement, Reserve.scaleSupply_of_base h.base, hrate]
  | borrow amount mode => simp only [AccountAction.movement, Reserve.scaleDebt_of_base h.base, hrate]
  | repay amount mode => simp only [AccountAction.movement, hdebtPart, hrate]
  | swapMode _ | rebalance | backUnbacked _ _ | flashLoan _ => simp only [AccountAction.movement, hrate]

section Change

variable {pool : PoolConfig} {config : ReserveConfig} {action : AccountAction}

/-- **A plain action makes the movement that is computed from its account.** -/
theorem change_movesBy (hplain : action.Plain) (hc : a.CoversDebt) (h : action.change pool config now a = .ok b) :
    ∃ m, action.movement a = .ok m ∧ MovesBy m a b := by
  cases action with
  | supply amount => exact supply_movesBy h
  | withdraw amount => exact withdraw_movesBy h
  | mintUnbacked amount => exact mintUnbacked_movesBy h
  | borrow amount mode =>
    obtain rfl : mode = .variableRate := hplain
    exact borrow_movesBy h
  | repay amount mode =>
    obtain rfl : mode = .variableRate := hplain
    exact repay_movesBy hc h
  | swapMode _ | rebalance | backUnbacked _ _ | flashLoan _ => exact hplain.elim

/-- a plain action on an account leaves the base of its market alone, once that is accrued to the moment -/
theorem perform_base {r : Reserve} (hplain : action.Plain) (hc : a.CoversDebt) (hr : a.reserve.accrue now = .ok r)
    (h : a.perform pool config now action = .ok b) : b.reserve.base = r.base := by
  obtain ⟨_, _, _, ha, hchange, hsettle⟩ := perform_eq_ok h
  have hcovers := hc.of_shifts (accrue_shifts ha)
  obtain ⟨_, _, hr', _, rfl⟩ := accrue_eq_ok ha
  obtain rfl := Except.ok.inj (hr.symm.trans hr')
  obtain ⟨_, _, hmoves⟩ := change_movesBy hplain hcovers hchange
  obtain ⟨_, _, rfl⟩ := settle_eq_ok hsettle
  exact hmoves.base

/-- **The same plain action makes the same change in markets with the same base, and positions that differ in nothing
but the rate they earn still differ in nothing else.** -/
theorem perform_alike {r s : Reserve} (hplain : action.Plain) (ha : a.CoversDebt) (hc : c.CoversDebt)
    (hr : a.reserve.accrue now = .ok r) (hs : c.reserve.accrue now = .ok s) (hbase : s.base = r.base)
    (hposition : a.position.Rerated c.position) (hb : a.perform pool config now action = .ok b)
    (hd : c.perform pool config now action = .ok d) :
    b.position.Rerated d.position ∧ Reserve.SameChange r b.reserve s d.reserve := by
  obtain ⟨_, _, _, haccrued, hchange, hsettle⟩ := perform_eq_ok hb
  obtain ⟨_, _, _, haccrued', hchange', hsettle'⟩ := perform_eq_ok hd
  have hcovers := ha.of_shifts (accrue_shifts haccrued)
  have hcovers' := hc.of_shifts (accrue_shifts haccrued')
  obtain ⟨_, p, hr', hp, rfl⟩ := accrue_eq_ok haccrued
  obtain rfl := Except.ok.inj (hr.symm.trans hr')
  obtain ⟨_, q, hs', hq, rfl⟩ := accrue_eq_ok haccrued'
  obtain rfl := Except.ok.inj (hs.symm.trans hs')
  have halike : Alike ⟨r, p⟩ ⟨s, q⟩ := ⟨hbase, Position.accrue_alike hbase hposition hp hq⟩
  obtain ⟨m, hm, hmoves⟩ := change_movesBy hplain hcovers hchange
  obtain ⟨m', hm', hmoves'⟩ := change_movesBy hplain hcovers' hchange'
  obtain rfl := Except.ok.inj (hm.symm.trans ((halike.movement action).symm.trans hm'))
  obtain ⟨hmoved, hsame⟩ := hmoves.alike hmoves' halike
  obtain ⟨_, hsettled, rfl⟩ := settle_eq_ok hsettle
  obtain ⟨_, hsettled', rfl⟩ := settle_eq_ok hsettle'
  exact ⟨Position.accrue_alike hmoved.base hmoved.position hsettled hsettled', hsame⟩

end Change

end Account

/-! ## Transfers -/

namespace Transfer

/-- both positions differ in nothing but the rate they earn -/
structure Alike (a c : Transfer) : Prop where
  sender : a.sender.Rerated c.sender
  recipient : a.recipient.Rerated c.recipient

variable {a b c d : Transfer} {r s : Reserve} {amount : UInt256} {now : Nat}

/-- whether it is a transfer to oneself is the same for both -/
theorem Alike.owners_iff (h : a.Alike c) :
    c.sender.owner = c.recipient.owner ↔ a.sender.owner = a.recipient.owner := by
  obtain ⟨⟨_, hsender⟩, ⟨_, hrecipient⟩⟩ := h
  rw [hsender, hrecipient]

theorem accrue_alike (hbase : s.base = r.base) (h : a.Alike c) (hb : a.accrue r now = .ok b)
    (hd : c.accrue s now = .ok d) : b.Alike d := by
  obtain ⟨_, _, hsender, hrecipient, rfl⟩ := accrue_eq_ok hb
  obtain ⟨_, _, hsender', hrecipient', rfl⟩ := accrue_eq_ok hd
  exact ⟨Position.accrue_alike hbase h.sender hsender hsender',
    Position.accrue_alike hbase h.recipient hrecipient hrecipient'⟩

theorem move_alike (hbase : s.base = r.base) (h : a.Alike c) (hb : a.move r amount = .ok b)
    (hd : c.move s amount = .ok d) : b.Alike d := by
  obtain ⟨scaled, hscaled, left, arrived, _, _, rfl, hleft, harrived, rfl, rfl⟩ := move_spec hb
  obtain ⟨scaled', hscaled', left', arrived', _, _, rfl, hleft', harrived', rfl, rfl⟩ := move_spec hd
  have hpart := (Account.Alike.mk hbase h.sender : Account.Alike ⟨r, a.sender⟩ ⟨s, c.sender⟩).scaledPart amount
  obtain rfl := Except.ok.inj (hscaled.symm.trans (hpart.symm.trans hscaled'))
  obtain ⟨rate, hrate⟩ := h.sender
  obtain ⟨rate', hrate'⟩ := h.recipient
  rw [hrate] at hleft'
  rw [hrate'] at harrived'
  dsimp only at hleft' harrived'
  obtain rfl : left' = left := ext (by omega)
  obtain rfl : arrived' = arrived := ext (by omega)
  exact ⟨⟨rate, by rw [hrate]⟩, ⟨rate', by rw [hrate']⟩⟩

theorem perform_alike {r' s' : Reserve} (hr : r.accrue now = .ok r') (hs : s.accrue now = .ok s')
    (hbase : s'.base = r'.base) (h : a.Alike c) (hb : a.perform r amount now = .ok b)
    (hd : c.perform s amount now = .ok d) : b.Alike d := by
  obtain ⟨_, _, accrued, hr1, ha, _, hmoved⟩ := perform_eq_ok hb
  obtain rfl := Except.ok.inj (hr.symm.trans hr1)
  obtain ⟨_, _, accrued', hs1, hc, _, hmoved'⟩ := perform_eq_ok hd
  obtain rfl := Except.ok.inj (hs.symm.trans hs1)
  have haccrued : accrued.Alike accrued' := accrue_alike hbase h ha hc
  by_cases hself : accrued.sender.owner = accrued.recipient.owner
  · rw [if_pos hself] at hmoved
    rw [if_pos (haccrued.owners_iff.2 hself)] at hmoved'
    rw [hmoved, hmoved']
    exact ⟨haccrued.sender, haccrued.sender⟩
  · rw [if_neg hself] at hmoved
    rw [if_neg (mt haccrued.owners_iff.1 hself)] at hmoved'
    obtain ⟨_, hmove, hsettle⟩ := hmoved
    obtain ⟨_, hmove', hsettle'⟩ := hmoved'
    exact accrue_alike hbase (move_alike hbase haccrued hmove hmove') hsettle hsettle'

end Transfer

end Lending
