/-
How the stable debt of a market follows that of the borrower through a liquidation, when no time passes.

Only the debt market gives up stable debt, and only what the quote covers beyond the variable debt. The market of the
collateral and the positions in it keep theirs.

Results:
- `Book.liquidate_burns`: at the moment of the last update of both markets, the debt market follows exactly when the
  removal of the stable debt that is repaid is not clamped, and the market of the collateral always follows.
-/
import Lending.Proofs.Liquidation
import Lending.Proofs.StableDebt

namespace Lending.Liquidation

open UInt256

variable {now : Nat}

/-! ## Covering a debt -/

theorem clearVariableDebt_follows {a cleared : Account} (h : clearVariableDebt now a = .ok cleared) :
    Account.Follows now a cleared := by
  rcases clearVariableDebt_cases h with ⟨_, rfl⟩ | ⟨_, h⟩
  · exact Account.Follows.refl now _
  · exact Account.giveUp_variable_follows h

theorem coverDebt_burns {a b : Account} {covered : UInt256}
    (hle : a.position.stableDebt.toNat ≤ a.reserve.totalStableDebt.toNat) (h : coverDebt covered now a = .ok b) :
    Account.Burns now (covered.monus a.position.variableDebt) a.position.stableRate a b := by
  rcases coverDebt_cases h with ⟨hall, h⟩ | ⟨hmore, cleared, hc, h⟩
  · have hnone : covered.monus a.position.variableDebt = 0 := by
      apply ext
      rw [toNat_monus, toNat_zero]
      exact Nat.sub_eq_zero_of_le hall
    rw [hnone]
    exact (Account.giveUp_variable_follows h).burns _
  · obtain ⟨haverage, hdebt, hrate⟩ := clearVariableDebt_same hc
    have hpos : covered.monus a.position.variableDebt ≠ 0 := by
      intro h0
      have hzero := congrArg toNat h0
      rw [toNat_monus, toNat_zero] at hzero
      exact hmore (Nat.sub_eq_zero_iff_le.1 hzero)
    have htotal : cleared.reserve.totalStableDebt = a.reserve.totalStableDebt := congrArg AveragedDebt.debt haverage
    rw [← htotal, ← hdebt] at hle
    have hburns := Account.giveUp_stable_burns hle hpos h
    have hfollows := clearVariableDebt_follows hc
    refine ⟨hburns.lastUpdate.trans hfollows.lastUpdate, fun hf => hburns.fresh (hfollows.fresh hf), ?_⟩
    rw [← hfollows.gap, ← haverage, ← hrate]
    exact hburns.gap

/-! ## The relations -/

/-- all five positions are fresh -/
structure Parties.Fresh (now : Nat) (p : Parties) : Prop where
  borrowerDebt : p.borrowerDebt.Fresh now
  borrowerCollateral : p.borrowerCollateral.Fresh now
  liquidatorDebt : p.liquidatorDebt.Fresh now
  liquidatorCollateral : p.liquidatorCollateral.Fresh now
  treasury : p.treasury.Fresh now

theorem Parties.Fresh.sameDebts {p q : Parties} (hf : p.Fresh now) (h : p.SameDebts q) : q.Fresh now where
  borrowerDebt := hf.borrowerDebt.sameDebts h.borrowerDebt
  borrowerCollateral := hf.borrowerCollateral.sameDebts h.borrowerCollateral
  liquidatorDebt := hf.liquidatorDebt.sameDebts h.liquidatorDebt
  liquidatorCollateral := hf.liquidatorCollateral.sameDebts h.liquidatorCollateral
  treasury := hf.treasury.sameDebts h.treasury

namespace Book

/-- the stable debt of both markets changes by what that of their positions changes by -/
structure Follows (now : Nat) (a b : Book) : Prop where
  debtUpdate : b.debtReserve.lastUpdate = a.debtReserve.lastUpdate
  collateralUpdate : b.collateralReserve.lastUpdate = a.collateralReserve.lastUpdate
  fresh : a.parties.Fresh now → b.parties.Fresh now
  debtGap : b.debtGap .stable = a.debtGap .stable
  collateralGap : b.collateralGap .stable = a.collateralGap .stable

/-- that of the debt market does so exactly when the clamp does not act on giving up `amount`, carried at `rate` -/
structure Burns (now : Nat) (amount rate : UInt256) (a b : Book) : Prop where
  debtUpdate : b.debtReserve.lastUpdate = a.debtReserve.lastUpdate
  collateralUpdate : b.collateralReserve.lastUpdate = a.collateralReserve.lastUpdate
  fresh : a.parties.Fresh now → b.parties.Fresh now
  debtGap : b.debtGap .stable = a.debtGap .stable ↔ ¬ a.debtReserve.averagedDebt.Wipes amount rate
  collateralGap : b.collateralGap .stable = a.collateralGap .stable

variable {a b c : Book} {amount rate : UInt256} {curve : RateCurve}

theorem Burns.trans (h1 : Burns now amount rate a b) (h2 : Follows now b c) : Burns now amount rate a c :=
  ⟨h2.debtUpdate.trans h1.debtUpdate, h2.collateralUpdate.trans h1.collateralUpdate, fun h => h2.fresh (h1.fresh h),
    by rw [h2.debtGap, h1.debtGap], h2.collateralGap.trans h1.collateralGap⟩

/-- what owes nobody anything leaves the stable debt of both markets alone -/
theorem SameDebts.follows (h : a.SameDebts b) (now : Nat) : Follows now a b := by
  refine ⟨h.debtReserve.lastUpdate, h.collateralReserve.lastUpdate, fun hf => hf.sameDebts h.parties, ?_, ?_⟩
  · simp only [Book.debtGap, Tally.stable, h.debtReserve.totalStableDebt, h.parties.borrowerDebt.stableDebt,
      h.parties.liquidatorDebt.stableDebt]
  · simp only [Book.collateralGap, Tally.stable, h.collateralReserve.totalStableDebt,
      h.parties.borrowerCollateral.stableDebt, h.parties.liquidatorCollateral.stableDebt, h.parties.treasury.stableDebt]

/-! ## Accruing and settling -/

theorem settle_follows (hf : a.parties.Fresh now) (h : a.settle now = .ok b) : Follows now a b := by
  obtain ⟨p, hs, rfl⟩ := settle_eq_ok h
  obtain ⟨hbdf, hbdd⟩ := hf.borrowerDebt.accrue hs.borrowerDebt
  obtain ⟨hldf, hldd⟩ := hf.liquidatorDebt.accrue hs.liquidatorDebt
  obtain ⟨hbcf, hbcd⟩ := hf.borrowerCollateral.accrue hs.borrowerCollateral
  obtain ⟨hlcf, hlcd⟩ := hf.liquidatorCollateral.accrue hs.liquidatorCollateral
  obtain ⟨htf, htd⟩ := hf.treasury.accrue hs.treasury
  refine ⟨rfl, rfl, fun _ => ⟨hbdf, hbcf, hldf, hlcf, htf⟩, ?_, ?_⟩
  · simp only [Book.debtGap, Tally.stable, hbdd, hldd]
  · simp only [Book.collateralGap, Tally.stable, hbcd, hlcd, htd]

/-- at the time of their last update both markets are accrued already -/
theorem accrueReserves_self (hd : a.debtReserve.lastUpdate = now) (hc : a.collateralReserve.lastUpdate = now) :
    a.accrueReserves now = .ok a := by
  have hdebt := Reserve.accrue_self a.debtReserve
  have hcollateral := Reserve.accrue_self a.collateralReserve
  rw [hd] at hdebt
  rw [hc] at hcollateral
  exact bind_eq_ok.2 ⟨_, hdebt, bind_eq_ok.2 ⟨_, hcollateral, rfl⟩⟩

theorem accrue_follows (hd : a.debtReserve.lastUpdate = now) (hc : a.collateralReserve.lastUpdate = now)
    (hf : a.parties.Fresh now) (h : a.accrue now = .ok b) :
    Follows now a b ∧ b.debtReserve = a.debtReserve ∧ b.collateralReserve = a.collateralReserve ∧
      b.parties.borrowerDebt.stableDebt = a.parties.borrowerDebt.stableDebt := by
  obtain ⟨accrued, ha, h⟩ := accrue_eq_ok h
  rw [accrueReserves_self hd hc] at ha
  cases ha
  have hfollows := settle_follows hf h
  obtain ⟨p, hs, rfl⟩ := settle_eq_ok h
  exact ⟨hfollows, rfl, rfl, (hf.borrowerDebt.accrue hs.borrowerDebt).2⟩

/-! ## Phases -/

theorem repay_burns {covered : UInt256}
    (hle : a.parties.borrowerDebt.stableDebt.toNat ≤ a.debtReserve.totalStableDebt.toNat)
    (h : a.repay curve covered now = .ok b) :
    Burns now (covered.monus a.parties.borrowerDebt.variableDebt) a.parties.borrowerDebt.stableRate a b := by
  obtain ⟨given, r, p, hc, hr, hp, rfl⟩ := repay_spec h
  have hburns := (coverDebt_burns hle hc).trans (Account.refresh_follows hr (Position.SameDebts.refl _))
  obtain ⟨_, rfl, _⟩ := Position.spend_spec hp
  refine ⟨hburns.lastUpdate, rfl, fun hf => ?_, ?_, rfl⟩
  · exact ⟨hburns.fresh hf.borrowerDebt, hf.borrowerCollateral, hf.liquidatorDebt, hf.liquidatorCollateral,
      hf.treasury⟩
  · have hgap := hburns.gap
    simp only [Tally.gap] at hgap
    rw [← hgap]
    simp only [Book.debtGap, Tally.stable]
    omega

/-! ## The liquidation -/

variable {debtConfig collateralConfig : ReserveConfig} {terms : Terms} {outcome : Outcome}

theorem liquidateNow_burns (hf : a.parties.Fresh now)
    (hle : a.parties.borrowerDebt.stableDebt.toNat ≤ a.debtReserve.totalStableDebt.toNat)
    (h : a.liquidateNow debtConfig collateralConfig terms now = .ok outcome) :
    ∃ amounts, a.quote collateralConfig terms = .ok amounts ∧
      Burns now (amounts.debtToCover.monus a.parties.borrowerDebt.variableDebt) a.parties.borrowerDebt.stableRate a
        outcome.book := by
  obtain ⟨repaid, seized, hq, hr, hs, ht⟩ := liquidateNow_eq_ok h
  have hburns := (repay_burns hle hr).trans ((seize_sameDebts hs).follows now)
  exact ⟨_, hq, hburns.trans (settle_follows (hburns.fresh hf) ht)⟩

/-- **At the moment of the last update of both markets, the debt market follows its positions through a liquidation
exactly when the clamp does not act on the stable debt that is repaid.** -/
theorem liquidate_burns (hd : a.debtReserve.lastUpdate = now) (hc : a.collateralReserve.lastUpdate = now)
    (hf : a.parties.Fresh now)
    (hle : a.parties.borrowerDebt.stableDebt.toNat ≤ a.debtReserve.totalStableDebt.toNat)
    (h : a.liquidate debtConfig collateralConfig terms now = .ok outcome) :
    outcome.book.debtReserve.lastUpdate = now ∧ outcome.book.collateralReserve.lastUpdate = now ∧
      outcome.book.parties.Fresh now ∧ outcome.book.collateralGap .stable = a.collateralGap .stable ∧
      ∃ accrued amounts, a.accrue now = .ok accrued ∧ accrued.quote collateralConfig terms = .ok amounts ∧
        (outcome.book.debtGap .stable = a.debtGap .stable ↔
          ¬ accrued.debtReserve.averagedDebt.Wipes
            (amounts.debtToCover.monus accrued.parties.borrowerDebt.variableDebt)
            accrued.parties.borrowerDebt.stableRate) := by
  obtain ⟨_, _, accrued, result, ha, hr, h⟩ := liquidate_eq_ok h
  obtain ⟨hfollows, hdebt, hcollateral, hborrower⟩ := accrue_follows hd hc hf ha
  rw [← hdebt, ← hborrower] at hle
  obtain ⟨amounts, hq, hburns⟩ := liquidateNow_burns (hfollows.fresh hf) hle hr
  -- a reserve that goes back as it came is the one that was accrued
  have hsame : outcome = result := by
    rw [h]
    split
    · next ht =>
      have hkept := liquidateNow_collateralReserve hr ht
      rw [hcollateral] at hkept
      rw [← hkept]
    · rfl
  subst hsame
  refine ⟨?_, ?_, hburns.fresh (hfollows.fresh hf), hburns.collateralGap.trans hfollows.collateralGap, accrued,
    amounts, ha, hq, ?_⟩
  · rw [hburns.debtUpdate, hfollows.debtUpdate, hd]
  · rw [hburns.collateralUpdate, hfollows.collateralUpdate, hc]
  · rw [← hfollows.debtGap]
    exact hburns.debtGap

end Book

end Lending.Liquidation
