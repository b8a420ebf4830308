/-
Bringing a market and one of its positions up to date.

No request may come before the last update of its market, and no stable debt is changed but in a request that updates
the market. So a position can always be brought to a time at which its market can be, and the only thing in the way is
a number that does not fit. The debts that interest is counted from are not read there but computed anew; as a stored
market is coherent, they are the totals it was stored with, and so no interest is taxed twice and none is missed.

Results:
- `Account.perform_dated`, `Book.liquidate_dated`: what changes a stable debt dates it no later than its market;
- `dated_rule`, `Reaches.dated`: and so every stable debt is dated no later than its market, and one that is cleared has
  neither a rate nor a date;
- `Reaches.failsOnly_accrue`: catching up overflows, if it is refused at all;
- `Reserve.Counted.taxed`: what the treasury is credited with is its share of the growth of the totals;
- `accrue_caught_up`: all of it for the stored positions of any pool that is reached.
-/
import Lending.Proofs.Ageing
import Lending.Proofs.DebtRules

namespace Lending

open UInt256

/-! ## The date of a stable debt -/

/-- the stable debt was changed no later than `limit`, and a debt that is cleared has neither a rate nor a date -/
structure Position.Dated (limit : Nat) (p : Position) : Prop where
  cleared : p.principalStableDebt = 0 → p.stableRate = 0 ∧ p.stableUpdated = 0
  updated : p.stableUpdated ≤ limit

namespace Position

variable {p q : Position} {limit : Nat}

theorem dated_empty (owner asset : Address) (wallet : UInt256) (limit : Nat) : (empty owner asset wallet).Dated limit :=
  ⟨fun _ => ⟨rfl, rfl⟩, Nat.zero_le _⟩

theorem Dated.mono (h : p.Dated limit) {later : Nat} (hle : limit ≤ later) : p.Dated later :=
  ⟨h.cleared, h.updated.trans hle⟩

/-- nothing but what is stored of the debts matters -/
theorem Dated.of_owed (h : p.Dated limit) (he : q.owed = p.owed) : q.Dated limit := by
  simp only [owed, Prod.mk.injEq] at he
  obtain ⟨_, hprincipal, hrate, hupdated⟩ := he
  constructor
  · rw [hprincipal, hrate, hupdated]
    exact h.cleared
  · rw [hupdated]
    exact h.updated

end Position

/-! ## Accounts -/

namespace Account

variable {a b : Account} {amount : UInt256} {now : Nat} {mode : RateMode}

/-- debt that is taken on is dated now, and it is not nothing -/
theorem takeOn_dated (hp : a.position.Dated now) (hne : amount ≠ 0) (h : a.takeOn amount now mode = .ok b) :
    b.position.Dated now := by
  cases mode with
  | variableRate =>
    obtain ⟨_, _, _, _, _, rfl, _⟩ := takeOn_variable_spec h
    exact ⟨hp.cleared, hp.updated⟩
  | stableRate =>
    obtain ⟨_, _, _, held, rfl, _, hheld, _⟩ := takeOn_stable_spec h
    refine ⟨fun h0 => absurd h0 fun h0 => ?_, le_rfl⟩
    have := toNat_pos hne
    obtain rfl : held = 0 := h0
    rw [toNat_zero] at hheld
    omega

/-- debt that is given up is dated now, unless nothing is left of it -/
theorem giveUp_dated (hp : a.position.Dated now) (h : a.giveUp amount now mode = .ok b) : b.position.Dated now := by
  cases mode with
  | variableRate =>
    obtain ⟨_, _, _, _, rfl, _⟩ := giveUp_variable_spec h
    exact ⟨hp.cleared, hp.updated⟩
  | stableRate =>
    obtain ⟨_, _, _, _, _, rfl, _, htime⟩ := giveUp_stable_spec h
    split at htime
    · next h0 =>
      obtain ⟨rfl, rfl⟩ := htime
      exact ⟨fun _ => ⟨rfl, rfl⟩, Nat.zero_le _⟩
    · next hne =>
      obtain ⟨rfl, rfl⟩ := htime
      exact ⟨fun h0 => absurd h0 hne, le_rfl⟩

variable {pool : PoolConfig} {config : ReserveConfig} {action : AccountAction}

theorem convert_dated {source target : RateMode} (hp : a.position.Dated now)
    (h : a.convert config.curve source target now = .ok b) : b.position.Dated now := by
  obtain ⟨hdebt, _, _, hgiven, htaken, _, _, rfl⟩ := convert_eq_ok h
  have hdated := takeOn_dated (giveUp_dated hp hgiven) hdebt htaken
  exact hdated

/-- an action that is not over nothing dates what it moves -/
theorem change_dated (hp : a.position.Dated now) (hpos : action.amount? ≠ some 0)
    (h : action.change pool config now a = .ok b) : b.position.Dated now := by
  cases action with
  | borrow amount mode =>
    obtain ⟨_, _, htaken, _, hreceived⟩ := borrow_eq_ok h
    have hne : amount ≠ 0 := fun h0 => hpos (congrArg some h0)
    exact (takeOn_dated hp hne htaken).of_owed (Position.receive_parts hreceived).1
  | repay amount mode =>
    obtain ⟨_, _, hgiven, _, hspent⟩ := repay_eq_ok h
    exact (giveUp_dated hp hgiven).of_owed (Position.spend_parts hspent).1
  | swapMode mode => exact convert_dated hp h
  | rebalance => exact convert_dated hp h
  | supply _ | withdraw _ | mintUnbacked _ | backUnbacked _ _ | flashLoan _ => exact hp.of_owed (change_owed rfl h)

theorem perform_dated (hp : a.position.Dated a.reserve.lastUpdate) (h : a.perform pool config now action = .ok b) :
    b.position.Dated b.reserve.lastUpdate := by
  obtain ⟨hpos, _, changed, ha, hc, hs⟩ := perform_eq_ok h
  obtain ⟨_, _, hr, hq, rfl⟩ := accrue_eq_ok ha
  obtain ⟨hle, _, _, _, _, _, rfl, _⟩ := Reserve.accrue_eq_ok hr
  obtain ⟨_, hsettled, rfl⟩ := settle_eq_ok hs
  have haccrued := (hp.mono hle).of_owed (Position.accrue_parts hq).1
  have hchanged := (change_dated haccrued hpos hc).of_owed (Position.accrue_parts hsettled).1
  exact hchanged.mono (change_moves hc).grows.lastUpdate

end Account

/-! ## Liquidations -/

namespace Liquidation

theorem coverDebt_dated {a b : Account} {covered : UInt256} {now : Nat} (hp : a.position.Dated now)
    (h : coverDebt covered now a = .ok b) : b.position.Dated now := by
  rcases coverDebt_cases h with ⟨_, h⟩ | ⟨_, cleared, hc, h⟩
  · exact Account.giveUp_dated hp h
  · rcases clearVariableDebt_cases hc with ⟨_, rfl⟩ | ⟨_, hc⟩
    · exact Account.giveUp_dated hp h
    · exact Account.giveUp_dated (Account.giveUp_dated hp hc) h

namespace Book

variable {a b : Book} {now : Nat} {debtConfig collateralConfig : ReserveConfig} {terms : Terms} {outcome : Outcome}

theorem repay_dated {curve : RateCurve} {covered : UInt256} (hp : a.parties.borrowerDebt.Dated now)
    (h : a.repay curve covered now = .ok b) : b.parties.borrowerDebt.Dated now := by
  obtain ⟨_, _, _, hcover, _, _, rfl⟩ := repay_spec h
  exact coverDebt_dated hp hcover

theorem liquidateNow_dated (hp : a.parties.borrowerDebt.Dated now)
    (h : a.liquidateNow debtConfig collateralConfig terms now = .ok outcome) :
    outcome.book.parties.borrowerDebt.Dated now := by
  obtain ⟨_, _, _, hr, hs, ht⟩ := liquidateNow_eq_ok h
  have hdated := repay_dated hp hr
  rw [← (seize_debt hs).2] at hdated
  obtain ⟨_, hsettled, hbook⟩ := settle_eq_ok ht
  rw [hbook]
  exact hdated.of_owed (Position.accrue_parts hsettled.borrowerDebt).1

theorem liquidate_dated (hp : a.parties.borrowerDebt.Dated a.debtReserve.lastUpdate)
    (h : a.liquidate debtConfig collateralConfig terms now = .ok outcome) :
    outcome.book.parties.borrowerDebt.Dated outcome.book.debtReserve.lastUpdate := by
  obtain ⟨_, _, accrued, result, ha, ho, rfl⟩ := liquidate_eq_ok h
  obtain ⟨_, hreserves, hsettled⟩ := accrue_eq_ok ha
  obtain ⟨_, _, hdebt, _, rfl⟩ := accrueReserves_eq_ok hreserves
  obtain ⟨_, hparties, rfl⟩ := settle_eq_ok hsettled
  obtain ⟨hle, _, _, _, _, _, rfl, _⟩ := Reserve.accrue_eq_ok hdebt
  have haccrued := (hp.mono hle).of_owed (Position.accrue_parts hparties.borrowerDebt).1
  have hresult : result.book.parties.borrowerDebt.Dated result.book.debtReserve.lastUpdate :=
    (liquidateNow_dated haccrued ho).mono (liquidateNow_moves ho).debtGrows.lastUpdate
  split
  · exact hresult
  · exact hresult

end Book

end Liquidation

/-! ## Pools -/

/-- debts change in markets that are updated, which dates them -/
theorem dated_rule : DebtRule fun p r => p.Dated r.lastUpdate where
  empty owner asset r := Position.dated_empty owner asset 0 r.lastUpdate
  carried hd howed hg := (hd.mono hg.lastUpdate).of_owed howed
  account _ hd h := Account.perform_dated hd h
  liquidation _ _ hd h := Liquidation.Book.liquidate_dated hd h

namespace Pool

variable {pool : Pool}

/-- every stable debt is dated no later than the last update of its market -/
def Dated (pool : Pool) : Prop :=
  ∀ key r, pool.reserves.get? key.asset = some r → (pool.positionAt key).Dated r.lastUpdate

/-- **In every pool that is reached, stable debts are dated no later than their markets.** -/
theorem Reaches.dated {allowed : Event → Prop} (h : Reaches allowed pool) : pool.Dated := h.binds dated_rule

end Pool

/-! ## The interest that is taxed -/

namespace Reserve

/-- the totals that are stored are the debts as of the last update, and their sum fits -/
structure Counted (r : Reserve) : Prop where
  variableDebt : r.scaledVariableDebt.rayMul r.debtIndex = .ok r.totalVariableDebt
  stableDebt : r.stableDebtNow r.lastUpdate = .ok r.totalStableDebt
  total : ∃ owed, r.totalDebt = .ok owed

/-- the treasury of `s` has what that of `r` had and its share of the growth of the totals, at the index of `s` -/
def Taxed (r s : Reserve) : Prop :=
  ∃ before after interest share credit : UInt256,
    r.totalDebt = .ok before ∧ s.totalDebt = .ok after ∧ after.sub before = .ok interest ∧
      interest.percentMul r.listing.reserveFactor = .ok share ∧ share.rayDiv s.liquidityIndex = .ok credit ∧
      r.treasuryScaled.add credit = .ok s.treasuryScaled

variable {r s : Reserve} {now : Nat}

theorem counted_opened (listing : Listing) (now : Nat) : (opened listing now).Counted :=
  ⟨zero_rayMul oneRay, rfl, 0, rfl⟩

theorem Coherent.counted {config : ReserveConfig} (h : r.Coherent config) : r.Counted := by
  obtain ⟨_, owed, _, _, howed, _⟩ := RateCurve.rates_spec h.rates
  exact ⟨h.variableDebt, h.stableDebt, owed, howed⟩

/-- a credit of nothing, which is left out, would add nothing -/
theorem creditAt_eq_ok {amount index t : UInt256} (hi : index.toNat ≠ 0) (h : r.creditAt amount index = .ok t) :
    ∃ credit, amount.rayDiv index = .ok credit ∧ r.treasuryScaled.add credit = .ok t := by
  unfold creditAt at h
  split at h
  · next h0 =>
    cases h
    subst h0
    exact ⟨0, zero_rayDiv hi, add_eq_ok.2 rfl⟩
  · exact bind_eq_ok.1 h

/-- a market that stands still owes no interest -/
theorem Counted.taxed_self (h : r.Counted) (hi : r.liquidityIndex.toNat ≠ 0) : r.Taxed r := by
  obtain ⟨owed, howed⟩ := h.total
  have hnone : owed.sub owed = .ok 0 := sub_eq_ok.2 ⟨le_rfl, (Nat.sub_self _).symm⟩
  exact ⟨owed, owed, 0, 0, 0, howed, howed, hnone, zero_percentMul _, zero_rayDiv hi, add_eq_ok.2 rfl⟩

/-- what an advance counts from are the totals that are stored -/
theorem Counted.taxed_advance (h : r.Counted) (hi : r.liquidityIndex.toNat ≠ 0) (ha : Advances now r s) : r.Taxed s := by
  obtain ⟨share, ⟨_, hvb, _, hsb, after, hafter, before, hbefore, interest, hinterest, hshare⟩, hcredit⟩ := ha.treasury
  obtain rfl := Except.ok.inj (h.variableDebt.symm.trans hvb)
  obtain rfl := Except.ok.inj (h.stableDebt.symm.trans hsb)
  have hpos : s.liquidityIndex.toNat ≠ 0 := by
    have := le_supplyIndexAt ha.liquidityIndex
    omega
  obtain ⟨credit, hscaled, hcredit⟩ := creditAt_eq_ok hpos hcredit
  rw [add_eq_ok, Nat.add_comm] at hafter hbefore
  exact ⟨before, after, interest, share, credit, add_eq_ok.2 hbefore, add_eq_ok.2 hafter, hinterest, hshare, hscaled,
    hcredit⟩

/-- **What the treasury is credited with is its share of the growth of the stored totals.** -/
theorem Counted.taxed (h : r.Counted) (hi : r.liquidityIndex.toNat ≠ 0) (ha : r.accrue now = .ok s) : r.Taxed s := by
  rcases accrue_cases ha with ⟨_, rfl⟩ | ⟨_, hadvance⟩
  · exact h.taxed_self hi
  · exact h.taxed_advance hi hadvance

/-- and the totals grow, each for itself -/
theorem Counted.totals_le (h : r.Counted) (ha : r.accrue now = .ok s) :
    r.totalStableDebt ≤ s.totalStableDebt ∧ r.totalVariableDebt ≤ s.totalVariableDebt := by
  rcases accrue_cases ha with ⟨_, rfl⟩ | ⟨hlt, hadvance⟩
  · exact ⟨le_iff.2 le_rfl, le_iff.2 le_rfl⟩
  · refine ⟨stableDebtAt_mono h.stableDebt hadvance.stableDebt hlt.le, ?_⟩
    rw [le_iff, toNat_rayMul h.variableDebt, toNat_rayMul hadvance.variableDebt]
    exact halfUp_mono (Nat.mul_le_mul_left _ (le_debtIndexNow hadvance.debtIndex)) _

end Reserve

/-! ## Catching up -/

namespace Pool

variable {pool : Pool} {allowed : Event → Prop} {key : PositionKey} {p : Position} {r : Reserve}

theorem Reaches.counted (h : Reaches allowed pool) {asset : Address} (hr : pool.reserves.get? asset = some r) :
    r.Counted := by
  obtain ⟨settings, hc⟩ := h.wellFormed.settingsOf hr
  rcases h.settled hc hr with ⟨listing, now, _, rfl⟩ | hcoherent
  · exact Reserve.counted_opened listing now
  · exact hcoherent.counted

theorem Reaches.stableDebtUpdated_le (h : Reaches allowed pool) {asset : Address}
    (hr : pool.reserves.get? asset = some r) : r.stableDebtUpdated ≤ r.lastUpdate := by
  obtain ⟨settings, hc⟩ := h.wellFormed.settingsOf hr
  exact (h.settled hc hr).steady.updated

/-- a stored position is dated by its market -/
theorem Reaches.dated_stored (h : Reaches allowed pool) (hp : pool.positions.get? key = some p)
    (hr : pool.reserves.get? key.asset = some r) : p.Dated r.lastUpdate :=
  Binds.stored (R := fun p r => p.Dated r.lastUpdate) h.dated hp hr

/-- a market is at an index of at least one and later than all that is dated by it, so nothing is refused but a number
that does not fit -/
theorem Reaches.failsOnly_accrue {S : Fault → Prop} (ho : S .overflow) (h : Reaches allowed pool)
    (hp : pool.positions.get? key = some p) (hr : pool.reserves.get? key.asset = some r) {now : Nat}
    (hle : r.lastUpdate ≤ now) : FailsOnly S (Account.accrue now ⟨r, p⟩) := by
  have hindex := (h.inRange hr).liquidityIndex_ne_zero
  have hplace : r.asset = p.asset :=
    (h.wellFormed.asset hr).trans (congrArg PositionKey.asset (h.wellFormed.key hp)).symm
  have hdated := (h.dated_stored hp hr).updated.trans hle
  apply (Reserve.failsOnly_accrue ho hindex (absurd ⟨h.stableDebtUpdated_le hr, hle⟩)).bind
  intro s hs
  have hplace' : s.asset = p.asset := (congrArg Listing.asset (Reserve.accrue_grows hs).listing).trans hplace
  exact (Position.failsOnly_accrue ho (absurd ⟨hplace', hdated⟩)).bind fun _ _ => failsOnly_pure _

/-- **Every stored position can be brought up, with its market, to any time from the last update of the market on,
unless a number does not fit, and the interest since then is taxed exactly once.** -/
theorem accrue_caught_up (h : Reachable pool) (hp : pool.positions.get? key = some p) :
    ∃ r, pool.reserves.get? key.asset = some r ∧ (p.principalStableDebt = 0 → p.stableRate = 0 ∧ p.stableUpdated = 0) ∧
      ∀ now, r.lastUpdate ≤ now → FailsOnly (· = .overflow) (Account.accrue now ⟨r, p⟩) ∧
        ∀ a, Account.accrue now ⟨r, p⟩ = .ok a →
          r.totalStableDebt ≤ a.reserve.totalStableDebt ∧ r.totalVariableDebt ≤ a.reserve.totalVariableDebt ∧
            r.Taxed a.reserve := by
  obtain ⟨r, hr⟩ := Option.isSome_iff_exists.1 (h.wellFormed.market hp)
  refine ⟨r, hr, (h.dated_stored hp hr).cleared, fun now hle => ⟨?_, fun a ha => ?_⟩⟩
  · exact h.failsOnly_accrue (S := (· = .overflow)) rfl hp hr hle
  · obtain ⟨_, _, hs, _, rfl⟩ := Account.accrue_eq_ok ha
    obtain ⟨hstable, hvariable⟩ := (h.counted hr).totals_le hs
    exact ⟨hstable, hvariable, (h.counted hr).taxed (h.inRange hr).liquidityIndex_ne_zero hs⟩

/-- an hour after the loan, the treasury is credited with its part of what the borrower owes by then -/
theorem accrue_caught_up_borrower :
    ∃ pool r p a, runFrom Sample.poolConfig Sample.borrowed = .ok pool ∧
      pool.reserves.get? Sample.debt = some r ∧ pool.positions.get? ⟨Sample.borrower, Sample.debt⟩ = some p ∧
      r.lastUpdate ≤ 3600 ∧ Account.accrue 3600 ⟨r, p⟩ = .ok a ∧ r.treasuryScaled < a.reserve.treasuryScaled ∧
      r.Taxed a.reserve := by
  obtain ⟨pool, hrun, p, hp, r, hr, hle, a, ha, hearned⟩ :
      ∃ pool, runFrom Sample.poolConfig Sample.borrowed = .ok pool ∧
        ∃ p ∈ pool.positions.get? ⟨Sample.borrower, Sample.debt⟩, ∃ r ∈ pool.reserves.get? Sample.debt,
          r.lastUpdate ≤ 3600 ∧ ∃ a, Account.accrue 3600 ⟨r, p⟩ = .ok a ∧
            r.treasuryScaled < a.reserve.treasuryScaled := by
    decide +kernel
  have hreach : Reachable pool := Reaches.of_runFrom (fun _ _ => trivial) hrun
  obtain ⟨s, hs, _, hcatch⟩ := accrue_caught_up hreach hp
  obtain rfl : s = r := Option.some.inj (hs.symm.trans hr)
  obtain ⟨_, _, htaxed⟩ := (hcatch 3600 hle).2 a ha
  exact ⟨pool, s, p, a, hrun, hr, hp, hle, ha, hearned, htaxed⟩

end Pool

end Lending
