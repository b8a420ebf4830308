/-
An action moves a balance by the amount it states.

A balance is stored scaled. An amount is scaled down, added to the scaled balance or taken from it, and the balance is
scaled up again before and after. So the balance moves by the amount up to half an index, where the amount is rounded,
and one unit, where the balance is. A whole balance is taken without scaling the amount down, and so leaves nothing.
Stable debt is not scaled and moves by exactly the amount, and what turns variable debt into stable debt keeps the sum
of both.

Results:
- `Apart.of_scaled`, `Apart.of_part`, `Apart.of_worth`: two balances lie apart by the amount that was scaled down, by
  the part that was taken, and by what is the worth of a scaled balance;
- `borrow_stable_rises`, `repay_stable_drops`, `convert_stable_debts`: what is exact about stable debt;
- `convert_sameCash`: changing the kind of a debt moves no underlying;
- `perform_stated`, `Transfer.perform_apart`: what every action states, and both sides of a transfer.
-/
import Lending.Proofs.Frames
import Lending.Proofs.Settlement

namespace Lending

open UInt256

/-! ## Balances that lie apart -/

/-- the balance `high` lies above `low` by `amount`, up to half an index and a unit -/
structure Apart (index low high amount : UInt256) : Prop where
  le : low ≤ high
  near : 2 * ray * |(high.toNat : ℤ) - low.toNat - amount.toNat| ≤ index.toNat + 2 * ray

namespace Apart

variable {index low high amount part scaledLow scaledHigh : UInt256}

/-- scaled balances that lie `part` apart, when `part` stands for `amount` up to half an index -/
theorem of_error (hlow : scaledLow.rayMul index = .ok low) (hhigh : scaledHigh.rayMul index = .ok high)
    (hpart : |2 * (part.toNat * index.toNat : ℤ) - 2 * (amount.toNat * ray)| ≤ index.toNat)
    (hsum : scaledLow.toNat + part.toNat = scaledHigh.toNat) : Apart index low high amount := by
  refine ⟨?_, ?_⟩
  · rw [le_iff, toNat_rayMul hlow, toNat_rayMul hhigh]
    exact halfUp_mono (Nat.mul_le_mul_right _ (by omega)) _
  · rw [toNat_rayMul hlow, toNat_rayMul hhigh]
    exact balance_falls ray_pos hsum hpart

theorem of_scaled (hlow : scaledLow.rayMul index = .ok low) (hhigh : scaledHigh.rayMul index = .ok high)
    (hpart : amount.rayDiv index = .ok part) (hsum : scaledLow.toNat + part.toNat = scaledHigh.toNat) :
    Apart index low high amount := by
  have hpos : 0 < index.toNat := Nat.pos_of_ne_zero (divHalfUp_eq_ok.1 hpart).1
  refine of_error hlow hhigh ?_ hsum
  rw [toNat_rayDiv hpart]
  exact_mod_cast abs_halfUp_sub_le (amount.toNat * ray) hpos

/-- nothing is left of a balance that is taken whole -/
theorem of_whole (index high : UInt256) : Apart index 0 high high := by
  refine ⟨Nat.zero_le _, ?_⟩
  have hnonneg : (0 : ℤ) ≤ index.toNat + 2 * ray := by omega
  simpa [toNat_zero] using hnonneg

/-- the part of a balance that is taken is all of the scaled balance for the whole, and else the amount scaled down -/
theorem of_part (hlow : scaledLow.rayMul index = .ok low) (hhigh : scaledHigh.rayMul index = .ok high)
    (hpart : (if amount = high then return scaledHigh else amount.rayDiv index) = (.ok part : Checked UInt256))
    (hsum : scaledLow.toNat + part.toNat = scaledHigh.toNat) : Apart index low high amount := by
  split at hpart
  · next hwhole =>
    cases hpart
    obtain rfl := eq_zero_of_add_eq hsum
    rw [zero_rayMul] at hlow
    cases hlow
    subst hwhole
    exact of_whole index amount
  · exact of_scaled hlow hhigh hpart hsum

/-- at an index of at least one, a scaled balance stands for its worth -/
theorem of_worth (hi : ray ≤ index.toNat) (hlow : scaledLow.rayMul index = .ok low)
    (hhigh : scaledHigh.rayMul index = .ok high) (hpart : part.rayMul index = .ok amount)
    (hsum : scaledLow.toNat + part.toNat = scaledHigh.toNat) : Apart index low high amount := by
  refine of_error hlow hhigh ?_ hsum
  have herror := abs_halfUp_sub_le (part.toNat * index.toNat) ray_pos
  have hindex : (ray : ℤ) ≤ index.toNat := Int.ofNat_le.2 hi
  rw [← toNat_rayMul hpart, abs_sub_comm, Nat.cast_mul] at herror
  exact herror.trans hindex

end Apart

/-! ## What actions state -/

/-- the debt of both kinds -/
def Position.bothDebts (p : Position) : Nat := p.variableDebt.toNat + p.stableDebt.toNat

namespace Account

/-- no underlying has moved, and no supply -/
structure SameCash (a b : Account) : Prop where
  available : b.reserve.available = a.reserve.available
  unbacked : b.reserve.unbacked = a.reserve.unbacked
  scaledSupply : b.reserve.scaledSupply = a.reserve.scaledSupply
  wallet : b.position.wallet = a.position.wallet

theorem SameCash.trans {a b c : Account} (h1 : a.SameCash b) (h2 : b.SameCash c) : a.SameCash c where
  available := h2.available.trans h1.available
  unbacked := h2.unbacked.trans h1.unbacked
  scaledSupply := h2.scaledSupply.trans h1.scaledSupply
  wallet := h2.wallet.trans h1.wallet

end Account

/-- what the action says about the account `given`: how the balances of the position it leaves, `b`, lie apart from
those that `given` had when it was accrued to the moment, `a` -/
def AccountAction.Stated (given a b : Account) : AccountAction → Prop
  | supply amount | mintUnbacked amount =>
    Apart a.reserve.liquidityIndex a.position.supply b.position.supply amount
  | withdraw amount => Apart a.reserve.liquidityIndex b.position.supply a.position.supply (a.withdrawn amount)
  | borrow amount .variableRate => Apart a.reserve.debtIndex a.position.variableDebt b.position.variableDebt amount
  | borrow amount .stableRate => b.position.stableDebt.toNat = a.position.stableDebt.toNat + amount.toNat
  | repay amount .variableRate =>
    Apart a.reserve.debtIndex b.position.variableDebt a.position.variableDebt (min amount a.position.variableDebt)
  | repay amount .stableRate =>
    b.position.stableDebt.toNat + (min amount a.position.stableDebt).toNat = a.position.stableDebt.toNat
  | swapMode mode =>
    given.SameCash b ∧ (mode = .variableRate → b.position.bothDebts = a.position.bothDebts) ∧
      2 * ray * |(b.position.bothDebts : ℤ) - a.position.bothDebts| ≤ a.reserve.debtIndex.toNat + 2 * ray
  | rebalance => given.SameCash b ∧ b.position.bothDebts = a.position.bothDebts
  | backUnbacked _ _ | flashLoan _ =>
    b.position.owed = given.position.owed ∧ b.position.supplied = given.position.supplied

namespace Account

variable {a b c : Account} {curve : RateCurve} {amount : UInt256} {now : Nat}

theorem accrue_accruedTo (h : a.accrue now = .ok b) : b.position.AccruedTo b.reserve := by
  obtain ⟨_, _, _, hp, rfl⟩ := accrue_eq_ok h
  exact Position.accrue_accruedTo hp

/-- the balances that settling gives are the worth of the scaled ones -/
theorem settle_worth (h : a.settle now = .ok b) :
    a.position.scaledSupply.rayMul a.reserve.liquidityIndex = .ok b.position.supply ∧
      a.position.scaledVariableDebt.rayMul a.reserve.debtIndex = .ok b.position.variableDebt := by
  obtain ⟨_, hq, rfl⟩ := settle_eq_ok h
  obtain ⟨_, _, _, _, rfl, hsupply, hvariable, _⟩ := Position.accrue_eq_ok hq
  exact ⟨hsupply, hvariable⟩

theorem settle_stable (h : a.settle now = .ok b) (hf : a.position.Fresh now) :
    b.position.stableDebt = a.position.stableDebt := by
  obtain ⟨_, hq, rfl⟩ := settle_eq_ok h
  exact (hf.accrue hq).2

/-! ### Supply -/

theorem supply_apart (ha : a.position.AccruedTo a.reserve) (h : a.supply curve amount = .ok b)
    (hs : b.settle now = .ok c) :
    Apart a.reserve.liquidityIndex a.position.supply c.position.supply amount := by
  obtain ⟨refreshed, scaled, hr, hscaled, _, total, held, wallet, collateral, rfl, _, hheld, _⟩ := supply_spec h
  obtain ⟨_, _, _, _, rfl, _⟩ := Reserve.refresh_spec hr
  exact .of_scaled ha.supply (settle_worth hs).1 hscaled hheld.symm

theorem mintUnbacked_apart {config : ReserveConfig} (ha : a.position.AccruedTo a.reserve)
    (h : a.mintUnbacked config amount = .ok b) (hs : b.settle now = .ok c) :
    Apart a.reserve.liquidityIndex a.position.supply c.position.supply amount := by
  obtain ⟨_, _, _, refreshed, scaled, hr, hscaled, _, total, held, collateral, rfl, _, hheld, _⟩ := mintUnbacked_spec h
  obtain ⟨_, _, _, _, rfl, _⟩ := Reserve.refresh_spec hr
  exact .of_scaled ha.supply (settle_worth hs).1 hscaled hheld.symm

theorem withdraw_apart (ha : a.position.AccruedTo a.reserve) (h : a.withdraw curve amount = .ok b)
    (hs : b.settle now = .ok c) :
    Apart a.reserve.liquidityIndex c.position.supply a.position.supply (a.withdrawn amount) := by
  obtain ⟨_, _, _, scaled, refreshed, hscaled, hr, total, held, wallet, collateral, rfl, _, hheld, _⟩ := withdraw_spec h
  obtain ⟨_, _, _, _, rfl, _⟩ := Reserve.refresh_spec hr
  exact .of_part (settle_worth hs).1 ha.supply hscaled hheld

/-! ### Variable debt -/

theorem borrow_variable_apart (ha : a.position.AccruedTo a.reserve)
    (h : a.borrow curve amount .variableRate now = .ok b) (hs : b.settle now = .ok c) :
    Apart a.reserve.debtIndex a.position.variableDebt c.position.variableDebt amount := by
  obtain ⟨_, taken, ht, hr, hp⟩ := borrow_eq_ok h
  obtain ⟨scaled, hscaled, total, worth, held, rfl, _, hheld⟩ := takeOn_variable_spec ht
  obtain ⟨_, _, _, _, hr, _⟩ := Reserve.refresh_spec hr
  obtain ⟨_, hp, _⟩ := Position.receive_spec hp
  have hdebt := (settle_worth hs).2
  rw [hr, hp] at hdebt
  exact .of_scaled ha.variableDebt hdebt hscaled hheld.symm

theorem repay_variable_apart (ha : a.position.AccruedTo a.reserve)
    (h : a.repay curve amount .variableRate now = .ok b) (hs : b.settle now = .ok c) :
    Apart a.reserve.debtIndex c.position.variableDebt a.position.variableDebt (min amount a.position.variableDebt) := by
  obtain ⟨_, given, hg, hr, hp⟩ := repay_eq_ok h
  obtain ⟨scaled, hscaled, worth, held, rfl, hheld⟩ := giveUp_variable_spec hg
  obtain ⟨_, _, _, _, hr, _⟩ := Reserve.refresh_spec hr
  obtain ⟨_, hp, _⟩ := Position.spend_spec hp
  have hdebt := (settle_worth hs).2
  rw [hr, hp] at hdebt
  exact .of_part hdebt ha.variableDebt hscaled hheld

/-! ### Stable debt -/

/-- the stable debt of `b` is as of `now`, and the variable debt is that of `a` -/
structure StableOnly (now : Nat) (a b : Account) : Prop where
  fresh : b.position.Fresh now
  scaledVariableDebt : b.position.scaledVariableDebt = a.position.scaledVariableDebt
  debtIndex : b.reserve.debtIndex = a.reserve.debtIndex

theorem takeOn_stable_rises (h : a.takeOn amount now .stableRate = .ok b) :
    StableOnly now a b ∧ b.position.stableDebt.toNat = a.position.stableDebt.toNat + amount.toNat := by
  obtain ⟨_, _, _, _, rfl, _, hheld, _⟩ := takeOn_stable_spec h
  exact ⟨⟨⟨rfl, fun _ => rfl⟩, rfl, rfl⟩, hheld⟩

theorem giveUp_stable_drops (h : a.giveUp amount now .stableRate = .ok b) :
    StableOnly now a b ∧ b.position.stableDebt.toNat + amount.toNat = a.position.stableDebt.toNat := by
  obtain ⟨_, _, held, _, _, rfl, hheld, htime⟩ := giveUp_stable_spec h
  exact ⟨⟨⟨rfl, fun hne => (by rwa [if_neg hne] at htime : _ ∧ _).2⟩, rfl, rfl⟩, hheld⟩

/-- no matter how the rates and the wallet change before the position is settled -/
theorem StableOnly.settle {r : Reserve} {p : Position} (ha : a.position.AccruedTo a.reserve) (h : StableOnly now a b)
    (hr : b.reserve.SameDebts r) (hp : b.position.SameDebts p) (hs : Account.settle now ⟨r, p⟩ = .ok c) :
    c.position.variableDebt = a.position.variableDebt ∧ c.position.stableDebt = b.position.stableDebt := by
  have hdebt := (settle_worth hs).2
  dsimp only at hdebt
  rw [hp.scaledVariableDebt, hr.debtIndex, h.scaledVariableDebt, h.debtIndex, ha.variableDebt] at hdebt
  exact ⟨(Except.ok.inj hdebt).symm, (settle_stable hs (h.fresh.sameDebts hp)).trans hp.stableDebt⟩

theorem borrow_stable_rises (ha : a.position.AccruedTo a.reserve)
    (h : a.borrow curve amount .stableRate now = .ok b) (hs : b.settle now = .ok c) :
    c.position.stableDebt.toNat = a.position.stableDebt.toNat + amount.toNat := by
  obtain ⟨_, taken, ht, hr, hp⟩ := borrow_eq_ok h
  obtain ⟨hstable, hrises⟩ := takeOn_stable_rises ht
  rw [(hstable.settle ha (Reserve.refresh_sameDebts hr) (Position.receive_sameDebts hp) hs).2]
  exact hrises

theorem repay_stable_drops (ha : a.position.AccruedTo a.reserve)
    (h : a.repay curve amount .stableRate now = .ok b) (hs : b.settle now = .ok c) :
    c.position.stableDebt.toNat + (min amount a.position.stableDebt).toNat = a.position.stableDebt.toNat := by
  obtain ⟨_, given, hg, hr, hp⟩ := repay_eq_ok h
  obtain ⟨hstable, hdrops⟩ := giveUp_stable_drops hg
  rw [(hstable.settle ha (Reserve.refresh_sameDebts hr) (Position.spend_sameDebts hp) hs).2]
  exact hdrops

/-! ### Changing the kind of a debt -/

theorem giveUp_sameCash {mode : RateMode} (h : a.giveUp amount now mode = .ok b) : a.SameCash b := by
  cases mode with
  | variableRate =>
    obtain ⟨_, _, _, _, rfl, _⟩ := giveUp_variable_spec h
    exact ⟨rfl, rfl, rfl, rfl⟩
  | stableRate =>
    obtain ⟨_, _, _, _, _, rfl, _⟩ := giveUp_stable_spec h
    exact ⟨rfl, rfl, rfl, rfl⟩

theorem takeOn_sameCash {mode : RateMode} (h : a.takeOn amount now mode = .ok b) : a.SameCash b := by
  cases mode with
  | variableRate =>
    obtain ⟨_, _, _, _, _, rfl, _⟩ := takeOn_variable_spec h
    exact ⟨rfl, rfl, rfl, rfl⟩
  | stableRate =>
    obtain ⟨_, _, _, _, rfl, _⟩ := takeOn_stable_spec h
    exact ⟨rfl, rfl, rfl, rfl⟩

theorem accrue_sameCash (h : a.accrue now = .ok b) : a.SameCash b := by
  obtain ⟨_, _, hr, hp, rfl⟩ := accrue_eq_ok h
  obtain ⟨_, _, _, _, _, _, rfl, _⟩ := Reserve.accrue_eq_ok hr
  exact ⟨rfl, rfl, rfl, (Position.accrue_parts hp).2.2⟩

theorem settle_sameCash (h : a.settle now = .ok b) : a.SameCash b := by
  obtain ⟨_, hp, rfl⟩ := settle_eq_ok h
  exact ⟨rfl, rfl, rfl, (Position.accrue_parts hp).2.2⟩

/-- **Changing the kind of a debt moves no underlying and no supply.** -/
theorem convert_sameCash {source target : RateMode} (h : a.convert curve source target now = .ok b) :
    a.SameCash b := by
  obtain ⟨_, given, taken, hg, ht, r, hr, rfl⟩ := convert_eq_ok h
  obtain ⟨available, _, _, _, rfl, havailable, _⟩ := Reserve.refresh_spec hr
  refine ((giveUp_sameCash hg).trans (takeOn_sameCash ht)).trans ⟨ext ?_, rfl, rfl, rfl⟩
  simpa [toNat_zero] using havailable

/-- what is taken on anew at a stable rate is the debt that was given up, of either kind -/
theorem convert_stable_debts {source : RateMode} (ha : a.position.AccruedTo a.reserve)
    (h : a.convert curve source .stableRate now = .ok b) (hs : b.settle now = .ok c) :
    c.position.bothDebts = a.position.bothDebts := by
  obtain ⟨_, given, taken, hg, ht, r, hr, rfl⟩ := convert_eq_ok h
  obtain ⟨hstable, hrises⟩ := takeOn_stable_rises ht
  have hsame := Reserve.refresh_sameDebts hr
  unfold Position.bothDebts
  cases source with
  | stableRate =>
    -- nothing is left of the old stable debt, and the variable debt is not touched
    obtain ⟨hgiven, hdrops⟩ := giveUp_stable_drops hg
    have hboth : StableOnly now a taken :=
      ⟨hstable.fresh, hstable.scaledVariableDebt.trans hgiven.scaledVariableDebt,
        hstable.debtIndex.trans hgiven.debtIndex⟩
    obtain ⟨hvariable, hdebt⟩ := hboth.settle ha hsame (.refl _) hs
    rw [hvariable, hdebt, hrises, hdrops]
  | variableRate =>
    -- nothing is left of the variable debt, so all of the debt is stable afterwards
    have hnone := giveUp_variable_whole hg
    obtain ⟨_, _, _, _, rfl, _⟩ := giveUp_variable_spec hg
    have hdebt := (settle_worth hs).2
    have hstill := settle_stable hs hstable.fresh
    dsimp only at hdebt hstill hrises hnone
    rw [hstable.scaledVariableDebt, hnone, zero_rayMul] at hdebt
    rw [hstill, hrises, ← Except.ok.inj hdebt, toNat_zero]
    exact (Nat.zero_add _).trans (Nat.add_comm _ _)

/-- stable debt that becomes variable is scaled down, and so changes by the rounding -/
theorem convert_variable_debts (ha : a.position.AccruedTo a.reserve)
    (h : a.convert curve .stableRate .variableRate now = .ok b) (hs : b.settle now = .ok c) :
    2 * ray * |(c.position.bothDebts : ℤ) - a.position.bothDebts| ≤ a.reserve.debtIndex.toNat + 2 * ray := by
  obtain ⟨_, given, taken, hg, ht, r, hr, rfl⟩ := convert_eq_ok h
  obtain ⟨hgiven, hdrops⟩ := giveUp_stable_drops hg
  obtain ⟨scaled, hscaled, total, worth, held, rfl, _, hheld⟩ := takeOn_variable_spec ht
  obtain ⟨_, _, _, _, rfl, _⟩ := Reserve.refresh_spec hr
  have hdebt := (settle_worth hs).2
  have hstill := settle_stable hs ⟨hgiven.fresh.1, hgiven.fresh.2⟩
  dsimp only at hdebt hheld hstill
  rw [hgiven.scaledVariableDebt] at hheld
  rw [hgiven.debtIndex] at hdebt
  have hnone : given.position.stableDebt = 0 := eq_zero_of_add_eq hdrops
  have hapart : Apart a.reserve.debtIndex a.position.variableDebt c.position.variableDebt a.position.stableDebt :=
    .of_scaled ha.variableDebt hdebt (hgiven.debtIndex ▸ hscaled) hheld.symm
  have hsplit : (c.position.bothDebts : ℤ) - a.position.bothDebts =
      c.position.variableDebt.toNat - a.position.variableDebt.toNat - a.position.stableDebt.toNat := by
    unfold Position.bothDebts
    rw [hstill, hnone, toNat_zero]
    push_cast
    ring
  rw [hsplit]
  exact hapart.near

/-! ### Whole actions -/

variable {given : Account} {pool : PoolConfig} {config : ReserveConfig} {action : AccountAction}

/-- **An action moves the balances of its position by the amount it states.** -/
theorem perform_stated (h : given.perform pool config now action = .ok c) :
    ∃ a, given.accrue now = .ok a ∧ action.Stated given a c := by
  obtain ⟨howed, hsupplied, _⟩ := perform_parts h
  obtain ⟨_, a, b, ha, hchange, hs⟩ := perform_eq_ok h
  have hworth := accrue_accruedTo ha
  have hcash {source target : RateMode} (hconvert : a.convert config.curve source target now = .ok b) :
      given.SameCash c :=
    ((accrue_sameCash ha).trans (convert_sameCash hconvert)).trans (settle_sameCash hs)
  refine ⟨a, ha, ?_⟩
  cases action with
  | supply amount => exact supply_apart hworth hchange hs
  | mintUnbacked amount => exact mintUnbacked_apart hworth hchange hs
  | withdraw amount => exact withdraw_apart hworth hchange hs
  | borrow amount mode =>
    cases mode with
    | variableRate => exact borrow_variable_apart hworth hchange hs
    | stableRate => exact borrow_stable_rises hworth hchange hs
  | repay amount mode =>
    cases mode with
    | variableRate => exact repay_variable_apart hworth hchange hs
    | stableRate => exact repay_stable_drops hworth hchange hs
  | swapMode mode =>
    refine ⟨hcash hchange, ?_⟩
    cases mode with
    | variableRate =>
      have hsame := convert_stable_debts hworth hchange hs
      refine ⟨fun _ => hsame, ?_⟩
      rw [hsame, sub_self, abs_zero, mul_zero]
      omega
    | stableRate => exact ⟨nofun, convert_variable_debts hworth hchange hs⟩
  | rebalance => exact ⟨hcash hchange, convert_stable_debts hworth hchange hs⟩
  | backUnbacked amount fee => exact ⟨howed rfl, hsupplied rfl⟩
  | flashLoan amount => exact ⟨howed rfl, hsupplied rfl⟩

end Account

/-! ## Transfers -/

namespace Transfer

variable {given a b : Transfer} {r : Reserve} {amount : UInt256} {now : Nat}

theorem move_apart (hs : given.sender.AccruedTo r) (hp : given.recipient.AccruedTo r)
    (h : given.move r amount = .ok a) (hb : a.accrue r now = .ok b) :
    Apart r.liquidityIndex b.sender.supply given.sender.supply amount ∧
      (ray ≤ r.liquidityIndex.toNat → Apart r.liquidityIndex given.recipient.supply b.recipient.supply amount) := by
  obtain ⟨scaled, hscaled, left, arrived, _, _, rfl, hleft, harrived, _⟩ := move_spec h
  obtain ⟨_, _, hsender, hrecipient, rfl⟩ := accrue_eq_ok hb
  have hsenderSupply := (Position.accrue_accruedTo hsender).supply
  have hrecipientSupply := (Position.accrue_accruedTo hrecipient).supply
  obtain ⟨_, _, _, _, rfl, _⟩ := Position.accrue_eq_ok hsender
  obtain ⟨_, _, _, _, rfl, _⟩ := Position.accrue_eq_ok hrecipient
  refine ⟨.of_part hsenderSupply hs.supply hscaled hleft, fun hindex => ?_⟩
  unfold Position.scaledPart at hscaled
  split at hscaled
  · next hwhole =>
    cases hscaled
    exact .of_worth hindex hp.supply hrecipientSupply (hwhole ▸ hs.supply) harrived.symm
  · exact .of_scaled hp.supply hrecipientSupply hscaled harrived.symm

/-- **A transfer moves both balances by the amount.** -/
theorem perform_apart (hne : given.sender.owner ≠ given.recipient.owner) (h : given.perform r amount now = .ok b) :
    ∃ reserve a, r.accrue now = .ok reserve ∧ given.accrue reserve now = .ok a ∧
      Apart reserve.liquidityIndex b.sender.supply a.sender.supply amount ∧
      (ray ≤ reserve.liquidityIndex.toNat →
        Apart reserve.liquidityIndex a.recipient.supply b.recipient.supply amount) := by
  obtain ⟨_, reserve, a, hr, ha, _, h⟩ := perform_eq_ok h
  rw [if_neg (mt (accrue_moves ha).owners_iff.1 hne)] at h
  obtain ⟨moved, hmove, hb⟩ := h
  refine ⟨reserve, a, hr, ha, ?_⟩
  obtain ⟨_, _, hs, hp, rfl⟩ := accrue_eq_ok ha
  exact move_apart (Position.accrue_accruedTo hs) (Position.accrue_accruedTo hp) hmove hb

end Transfer

/-- **Balances move by the amounts that are stated**, up to half an index and a unit: those of the account of an action,
and those of both sides of a transfer between two users. -/
theorem balances_move_as_stated :
    (∀ (pool : PoolConfig) (config : ReserveConfig) (now : Nat) (action : AccountAction) (given b : Account),
      given.perform pool config now action = .ok b →
        ∃ a, given.accrue now = .ok a ∧ action.Stated given a b) ∧
    ∀ (r : Reserve) (amount : UInt256) (now : Nat) (given b : Transfer),
      given.sender.owner ≠ given.recipient.owner → given.perform r amount now = .ok b →
        ∃ reserve a, r.accrue now = .ok reserve ∧ given.accrue reserve now = .ok a ∧
          Apart reserve.liquidityIndex b.sender.supply a.sender.supply amount ∧
          (ray ≤ reserve.liquidityIndex.toNat →
            Apart reserve.liquidityIndex a.recipient.supply b.recipient.supply amount) :=
  ⟨fun _ _ _ _ _ _ h => Account.perform_stated h, fun _ _ _ _ _ hne h => Transfer.perform_apart hne h⟩

/-- an account of both debts in a market whose indices have grown by a tenth and a third -/
def Sample.agedAccount : Account where
  reserve :=
    { suppliedReserve with
      liquidityIndex := ⟨ray + ray / 10, by decide⟩
      debtIndex := ⟨ray + ray / 3, by decide⟩
      scaledVariableDebt := tokens 300
      averageStableRate := percent 9
      totalStableDebt := tokens 30
      principalStableDebt := tokens 30 }
  position :=
    { position suppliedReserve.asset with
      scaledSupply := tokens 70
      scaledVariableDebt := tokens 40
      principalStableDebt := tokens 20
      stableRate := percent 9 }

/-- its supply is passed on to somebody who has a little of it -/
def Sample.handover : Transfer where
  sender := agedAccount.position
  recipient := { agedAccount.position with owner := Address.repeated 0x0B, scaledSupply := tokens 5 }

/-- an hour later: a withdrawal, a loan, the three ways of taking a debt on anew, and a transfer of the whole supply -/
theorem balances_move_as_stated_sample :
    (∀ action ∈ [.withdraw (Sample.tokens 10), .borrow (Sample.tokens 3) .variableRate, .swapMode .stableRate,
        .swapMode .variableRate, .rebalance],
      ∃ a b, Sample.agedAccount.accrue 3600 = .ok a ∧
        Sample.agedAccount.perform Sample.poolConfig Sample.reserveConfig 3600 action = .ok b ∧
        action.Stated Sample.agedAccount a b) ∧
    ∃ reserve a b, Sample.agedAccount.reserve.accrue 3600 = .ok reserve ∧
      Sample.handover.accrue reserve 3600 = .ok a ∧
      Sample.handover.perform Sample.agedAccount.reserve (Sample.tokens 77) 3600 = .ok b ∧
      Apart reserve.liquidityIndex b.sender.supply a.sender.supply (Sample.tokens 77) ∧
      Apart reserve.liquidityIndex a.recipient.supply b.recipient.supply (Sample.tokens 77) := by
  have hperforms : ∀ action ∈ [.withdraw (Sample.tokens 10), .borrow (Sample.tokens 3) .variableRate,
      .swapMode .stableRate, .swapMode .variableRate, .rebalance],
      ∃ b, Sample.agedAccount.perform Sample.poolConfig Sample.reserveConfig 3600 action = .ok b ∧ True := by
    decide +kernel
  have htransfers : ∃ b, Sample.handover.perform Sample.agedAccount.reserve (Sample.tokens 77) 3600 = .ok b ∧ True := by
    decide +kernel
  have hindex : ∀ reserve, Sample.agedAccount.reserve.accrue 3600 = .ok reserve →
      ray ≤ reserve.liquidityIndex.toNat := by
    decide +kernel
  obtain ⟨hactions, hmoves⟩ := balances_move_as_stated
  refine ⟨fun action hmem => ?_, ?_⟩
  · obtain ⟨b, hb, _⟩ := hperforms action hmem
    obtain ⟨a, ha, hstated⟩ := hactions _ _ _ _ _ b hb
    exact ⟨a, b, ha, hb, hstated⟩
  · obtain ⟨b, hb, _⟩ := htransfers
    obtain ⟨reserve, a, hr, ha, hsender, hrecipient⟩ := hmoves _ _ _ _ b (by decide) hb
    exact ⟨reserve, a, b, hr, ha, hb, hsender, hrecipient (hindex reserve hr)⟩

end Lending
