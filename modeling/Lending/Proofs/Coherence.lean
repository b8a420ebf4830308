/-
What is stored of a market fits together.

A market is written by an action only after its rates were refreshed, and nothing that they depend on is changed in
between. So its totals are the debts with interest, and its rates are those of its balances: it is `Coherent`. In the
middle of an action it is only `Steady`, which every step keeps and from which a refresh makes it coherent.

Results:
- `Reserve.Steady.refresh`: a refresh makes a steady market coherent;
- `Account.perform_coherent`, `Liquidation.Book.liquidate_coherent`: every market that an action writes is coherent;
- `Reaches.settled`, `reserve_coherent`: along any run, a market is as it was listed, or coherent.
-/
import Lending.Proofs.Accrual
import Lending.Proofs.DebtFrames
import Lending.Proofs.Run

namespace Lending

open UInt256

/-! ## Markets -/

/-- the rates of a market are refused unless its stable debt can be rounded as a product -/
theorem RateCurve.stableDebt_fits {curve : RateCurve} {balances : Balances} {rates : InterestRates}
    (h : curve.rates balances = .ok rates) : balances.stableDebt.toNat * ray + ray / 2 < Nat.pow 2 256 := by
  obtain ⟨_, debt, _, _, hdebt, husage, _⟩ := rates_spec h
  rw [add_eq_ok] at hdebt
  have hsmall : ray * ray + ray / 2 < Nat.pow 2 256 := by decide
  rcases Usage.of_eq_ok husage with ⟨rfl, _⟩ | ⟨_, backed, _, hbacked, hborrow, _⟩
  · rw [toNat_zero] at hdebt
    obtain ⟨h0, _⟩ := Nat.add_eq_zero_iff.1 hdebt.symm
    rw [h0, Nat.zero_mul]
    exact Nat.lt_of_le_of_lt (Nat.add_le_add_right (Nat.zero_le _) _) hsmall
  · -- the debt was divided by at least as much, so its own half was rounded already, unless it is below one
    rw [add_eq_ok] at hbacked
    obtain ⟨_, hfits, _⟩ := divHalfUp_eq_ok.1 hborrow
    have hle : balances.stableDebt.toNat * ray ≤ debt.toNat * ray := Nat.mul_le_mul_right ray (by omega)
    rcases Nat.le_total ray backed.toNat with hlarge | hlow
    · have := Nat.div_le_div_right (c := 2) hlarge
      omega
    · have : balances.stableDebt.toNat * ray ≤ ray * ray := Nat.mul_le_mul_right ray (by omega)
      omega

theorem Reserve.requireMintCap_eq_ok {r : Reserve} {cap : Nat} (h : r.requireMintCap cap = .ok ()) :
    r.unbacked.toNat ≤ cap * Nat.pow 10 r.listing.decimals := by
  simp only [requireMintCap, bind_eq_ok, Listing.unit_eq_ok, fit_eq_ok, require_eq_ok] at h
  obtain ⟨unit, hunit, limit, hlimit, hle⟩ := h
  rw [← hunit, ← hlimit]
  exact hle

namespace Reserve

/-- the stable debt is that of its principal, or counted anew at this very time; debt that is cleared has no rate; and
the unbacked supply stays below the cap -/
structure Steady (cap : Nat) (r : Reserve) : Prop where
  stableDebt : r.stableDebtNow r.lastUpdate = .ok r.totalStableDebt ∨
    (r.principalStableDebt = r.totalStableDebt ∧ r.stableDebtUpdated = r.lastUpdate)
  average : r.principalStableDebt = 0 → r.averageStableRate = 0
  updated : r.stableDebtUpdated ≤ r.lastUpdate
  unbacked : r.unbacked.toNat ≤ cap * Nat.pow 10 r.listing.decimals

/-- every total is what it stands for, and the rates are those of the curve at these balances -/
structure Coherent (config : ReserveConfig) (r : Reserve) : Prop where
  liquidity : r.totalLiquidity.toNat = r.available.toNat + r.unbacked.toNat
  variableDebt : r.scaledVariableDebt.rayMul r.debtIndex = .ok r.totalVariableDebt
  stableDebt : stableDebtAt r.principalStableDebt r.averageStableRate r.stableDebtUpdated r.lastUpdate =
    .ok r.totalStableDebt
  rates : config.curve.rates r.balances = .ok r.rates
  average : r.principalStableDebt = 0 → r.averageStableRate = 0
  updated : r.stableDebtUpdated ≤ r.lastUpdate
  unbacked : r.unbacked.toNat ≤ config.unbackedMintCap * Nat.pow 10 r.listing.decimals

variable {r s : Reserve} {cap now : Nat} {config : ReserveConfig}

theorem steady_opened (cap : Nat) (listing : Listing) (now : Nat) : (opened listing now).Steady cap :=
  ⟨.inl rfl, fun _ => rfl, le_rfl, Nat.zero_le _⟩

theorem Coherent.steady (h : r.Coherent config) : r.Steady config.unbackedMintCap :=
  ⟨.inl h.stableDebt, h.average, h.updated, h.unbacked⟩

/-- there are no rates for a market that gives away more than all of the interest -/
theorem Coherent.factor_le (h : r.Coherent config) : r.listing.reserveFactor ≤ hundredPercent :=
  (RateCurve.rates_spec h.rates).1

/-- nothing that fits together depends on the supply of the users -/
theorem Coherent.scaledSupply (h : r.Coherent config) (scaledSupply : UInt256) :
    Coherent config { r with scaledSupply } where
  liquidity := h.liquidity
  variableDebt := h.variableDebt
  stableDebt := h.stableDebt
  rates := h.rates
  average := h.average
  updated := h.updated
  unbacked := h.unbacked

/-- variable debt comes and goes without a change to what is steady -/
theorem Steady.variableDebt (h : r.Steady cap) (scaledVariableDebt totalVariableDebt : UInt256) :
    Steady cap { r with scaledVariableDebt, totalVariableDebt } where
  stableDebt := h.stableDebt
  average := h.average
  updated := h.updated
  unbacked := h.unbacked

theorem Steady.accrue (h : r.Steady cap) (ha : r.accrue now = .ok s) : s.Steady cap ∧ s.lastUpdate = now := by
  rcases accrue_cases ha with ⟨hsame, rfl⟩ | ⟨hlt, hadv⟩
  · exact ⟨h, hsame⟩
  · have hstable := hadv.stableDebt
    rw [hadv.same]
    exact ⟨⟨.inl hstable, h.average, h.updated.trans hlt.le, h.unbacked⟩, rfl⟩

theorem Steady.sameDebts (h : r.Steady cap) (hs : r.SameDebts s) (hu : s.unbacked.toNat ≤ r.unbacked.toNat) :
    s.Steady cap := by
  constructor
  · unfold stableDebtNow
    rw [hs.principalStableDebt, hs.averageStableRate, hs.stableDebtUpdated, hs.lastUpdate, hs.totalStableDebt]
    exact h.stableDebt
  · rw [hs.principalStableDebt, hs.averageStableRate]
    exact h.average
  · rw [hs.stableDebtUpdated, hs.lastUpdate]
    exact h.updated
  · rw [hs.listing]
    exact hu.trans h.unbacked

/-- fees come in without a change to what is unbacked -/
theorem Steady.collect (h : r.Steady cap) {fee : SplitFee} (hc : r.collect fee = .ok s) {unbacked : UInt256}
    (hu : unbacked.toNat ≤ s.unbacked.toNat) : Steady cap { s with unbacked } := by
  have hsame := collect_sameDebts hc unbacked
  obtain ⟨_, _, rfl, _⟩ := collect_spec hc
  exact h.sameDebts hsame hu

/-- **A refresh makes a steady market coherent.** -/
theorem Steady.refresh (h : r.Steady config.unbackedMintCap) {added taken : UInt256}
    (hr : r.refresh config.curve added taken = .ok s) : s.Coherent config := by
  obtain ⟨_, _, _, _, rfl, _, hliquidity, hvariable, hrates⟩ := refresh_spec hr
  refine ⟨hliquidity, hvariable, ?_, hrates, h.average, h.updated, h.unbacked⟩
  rcases h.stableDebt with hnow | ⟨hfresh, htime⟩
  · exact hnow
  · dsimp only
    rw [hfresh, htime]
    exact stableDebtAt_now (RateCurve.stableDebt_fits hrates) _ _

end Reserve

/-! ## Accounts -/

namespace Account

variable {a b : Account} {curve : RateCurve} {amount : UInt256} {now cap : Nat} {mode : RateMode}

theorem takeOn_steady (hs : a.reserve.Steady cap) (ht : a.reserve.lastUpdate = now)
    (h : a.takeOn amount now mode = .ok b) : b.reserve.Steady cap ∧ b.reserve.lastUpdate = now := by
  cases mode with
  | variableRate =>
    obtain ⟨_, _, total, worth, _, rfl, _⟩ := takeOn_variable_spec h
    exact ⟨hs.variableDebt total worth, ht⟩
  | stableRate =>
    obtain ⟨_, total, _, _, rfl, htotal, _, haverage⟩ := takeOn_stable_spec h
    refine ⟨⟨.inr ⟨rfl, ht.symm⟩, fun h0 => ?_, ht.ge, hs.unbacked⟩, ht⟩
    -- nothing was owed and nothing taken on, and the average of no debt is zero
    obtain rfl : total = 0 := h0
    obtain ⟨sum, hsum, ⟨_, hzero⟩ | ⟨hne, _⟩⟩ := blendedRate_eq_ok haverage
    · exact hzero
    · rw [add_eq_ok, ← htotal, toNat_zero] at hsum
      exact absurd (ext hsum) hne

theorem giveUp_steady (hs : a.reserve.Steady cap) (ht : a.reserve.lastUpdate = now)
    (h : a.giveUp amount now mode = .ok b) : b.reserve.Steady cap ∧ b.reserve.lastUpdate = now := by
  cases mode with
  | variableRate =>
    obtain ⟨_, _, worth, _, rfl, _⟩ := giveUp_variable_spec h
    exact ⟨hs.variableDebt _ worth, ht⟩
  | stableRate =>
    obtain ⟨rest, hrest, _, _, _, rfl, _⟩ := giveUp_stable_spec h
    refine ⟨⟨.inr ⟨rfl, ht.symm⟩, fun h0 => ?_, ht.ge, hs.unbacked⟩, ht⟩
    rcases AveragedDebt.remove_eq_ok hrest with ⟨_, rfl⟩ | ⟨hlt, _, _, _, _, ⟨_, rfl⟩ | ⟨_, hpart, _⟩⟩
    · rfl
    · rfl
    · -- a part of the debt is left, so the debt is not cleared
      have hleft := congrArg toNat (hpart.symm.trans h0)
      rw [toNat_monus, toNat_zero] at hleft
      rw [lt_iff] at hlt
      omega

variable {pool : PoolConfig} {config : ReserveConfig} {action : AccountAction}

theorem convert_coherent {source target : RateMode} (hs : a.reserve.Steady config.unbackedMintCap)
    (ht : a.reserve.lastUpdate = now) (h : a.convert config.curve source target now = .ok b) :
    b.reserve.Coherent config := by
  obtain ⟨_, _, _, hgiven, htaken, _, hr, rfl⟩ := convert_eq_ok h
  obtain ⟨hs, ht⟩ := giveUp_steady hs ht hgiven
  exact (takeOn_steady hs ht htaken).1.refresh hr

/-- **An action on an accrued account leaves its market coherent.** -/
theorem change_coherent (hs : a.reserve.Steady config.unbackedMintCap) (ht : a.reserve.lastUpdate = now)
    (h : action.change pool config now a = .ok b) : b.reserve.Coherent config := by
  cases action with
  | supply amount =>
    obtain ⟨_, _, hr, _, _, total, _, _, _, rfl, _⟩ := supply_spec h
    exact (hs.refresh hr).scaledSupply total
  | withdraw amount =>
    obtain ⟨_, _, _, _, _, _, hr, total, _, _, _, rfl, _⟩ := withdraw_spec h
    exact (hs.refresh hr).scaledSupply total
  | borrow amount mode =>
    obtain ⟨_, _, htaken, hr, _⟩ := borrow_eq_ok h
    exact (takeOn_steady hs ht htaken).1.refresh hr
  | repay amount mode =>
    obtain ⟨_, _, hgiven, hr, _⟩ := repay_eq_ok h
    exact (giveUp_steady hs ht hgiven).1.refresh hr
  | swapMode mode => exact convert_coherent hs ht h
  | rebalance => exact convert_coherent hs ht h
  | mintUnbacked amount =>
    obtain ⟨unbacked, _, hcap, _, _, hr, _, _, total, _, _, rfl, _⟩ := mintUnbacked_spec h
    have hminted : Reserve.Steady config.unbackedMintCap { a.reserve with unbacked } :=
      { hs with unbacked := Reserve.requireMintCap_eq_ok hcap }
    exact (hminted.refresh hr).scaledSupply total
  | backUnbacked amount fee =>
    obtain ⟨_, _, _, _, _, _, hc, unbacked, hunbacked, hr, _⟩ := backUnbacked_spec h
    exact (hs.collect hc (by omega : unbacked.toNat ≤ _)).refresh hr
  | flashLoan amount =>
    obtain ⟨_, _, collected, _, hc, hr, _⟩ := flashLoan_spec h
    exact (hs.collect hc le_rfl).refresh hr

theorem perform_coherent (hs : a.reserve.Steady config.unbackedMintCap) (h : a.perform pool config now action = .ok b) :
    b.reserve.Coherent config := by
  obtain ⟨_, _, changed, ha, hc, hsettled⟩ := perform_eq_ok h
  obtain ⟨_, _, hr, _, rfl⟩ := accrue_eq_ok ha
  obtain ⟨hsteady, htime⟩ := hs.accrue hr
  obtain ⟨_, _, rfl⟩ := settle_eq_ok hsettled
  have hchanged : changed.reserve.Coherent config := change_coherent hsteady htime hc
  exact hchanged

end Account

/-! ## Liquidations -/

namespace Liquidation

theorem coverDebt_steady {a b : Account} {covered : UInt256} {now cap : Nat} (hs : a.reserve.Steady cap)
    (ht : a.reserve.lastUpdate = now) (h : coverDebt covered now a = .ok b) : b.reserve.Steady cap := by
  rcases coverDebt_cases h with ⟨_, h⟩ | ⟨_, cleared, hc, h⟩
  · exact (Account.giveUp_steady hs ht h).1
  · rcases clearVariableDebt_cases hc with ⟨_, rfl⟩ | ⟨_, hc⟩
    · exact (Account.giveUp_steady hs ht h).1
    · obtain ⟨hs, ht⟩ := Account.giveUp_steady hs ht hc
      exact (Account.giveUp_steady hs ht h).1

namespace Book

variable {a b : Book} {now : Nat} {debtConfig collateralConfig : ReserveConfig}

theorem repay_coherent {covered : UInt256} (hs : a.debtReserve.Steady debtConfig.unbackedMintCap)
    (ht : a.debtReserve.lastUpdate = now) (h : a.repay debtConfig.curve covered now = .ok b) :
    b.debtReserve.Coherent debtConfig := by
  obtain ⟨_, _, _, hcover, hr, _, rfl⟩ := repay_spec h
  exact (coverDebt_steady hs ht hcover).refresh hr

/-- collateral that is taken in underlying leaves a market whose rates were refreshed -/
theorem seize_coherent {amounts : Amounts} (hs : a.collateralReserve.Steady collateralConfig.unbackedMintCap)
    (h : a.seize collateralConfig.curve amounts false = .ok b) :
    b.collateralReserve.Coherent collateralConfig := by
  obtain ⟨_, _, charged, _, ht, hc, rfl⟩ := seize_spec h
  obtain ⟨_, _, _, _, hr, _, _, total, rfl, _⟩ := seizeUnderlying_spec ht
  have hcharged : charged.collateralReserve.Coherent collateralConfig := by
    rw [chargeFee_collateralReserve hc]
    exact (hs.refresh hr).scaledSupply total
  split
  · exact hcharged
  · exact hcharged

/-- **A liquidation leaves both markets coherent, or that of the collateral as it was.** -/
theorem liquidate_coherent {terms : Terms} {outcome : Outcome}
    (hd : a.debtReserve.Steady debtConfig.unbackedMintCap)
    (hc : a.collateralReserve.Steady collateralConfig.unbackedMintCap)
    (h : a.liquidate debtConfig collateralConfig terms now = .ok outcome) :
    outcome.book.debtReserve.Coherent debtConfig ∧
      (outcome.book.collateralReserve = a.collateralReserve ∨
        outcome.book.collateralReserve.Coherent collateralConfig) := by
  obtain ⟨_, _, accrued, result, ha, ho, rfl⟩ := liquidate_eq_ok h
  obtain ⟨mid, hmid, hset⟩ := accrue_eq_ok ha
  obtain ⟨_, _, hdebt, hcollateral, rfl⟩ := accrueReserves_eq_ok hmid
  obtain ⟨hsd, htd⟩ := hd.accrue hdebt
  obtain ⟨hsc, _⟩ := hc.accrue hcollateral
  obtain ⟨hed, hec⟩ := settle_reserves hset
  obtain ⟨repaid, seized, _, hr, hs, ht⟩ := liquidateNow_eq_ok ho
  obtain ⟨hrd, hrc⟩ := settle_reserves ht
  have hrepaid : repaid.debtReserve.Coherent debtConfig := repay_coherent (hed ▸ hsd) (hed ▸ htd) hr
  have hsteady : repaid.collateralReserve.Steady collateralConfig.unbackedMintCap := by
    rw [(repay_collateral hr).1, hec]
    exact hsc
  have hresult : result.book.debtReserve.Coherent debtConfig := by
    rw [hrd, (seize_debt hs).1]
    exact hrepaid
  split
  · exact ⟨hresult, .inl rfl⟩
  · next hreceive =>
    refine ⟨hresult, .inr ?_⟩
    rw [Bool.eq_false_iff.2 hreceive] at hs
    rw [hrc]
    exact seize_coherent hsteady hs

end Book

end Liquidation

/-! ## Runs -/

namespace Pool

/-- a market is as it was listed by an event that is allowed, or coherent under its settings -/
def Settled (allowed : Event → Prop) (settings : ReserveConfig) (r : Reserve) : Prop :=
  (∃ listing now, allowed (.list settings listing now) ∧ r = .opened listing now) ∨ r.Coherent settings

variable {pool next : Pool} {allowed : Event → Prop} {asset : Address} {settings : ReserveConfig} {r s : Reserve}

theorem Settled.steady (h : Settled allowed settings r) : r.Steady settings.unbackedMintCap := by
  rcases h with ⟨listing, now, _, rfl⟩ | h
  · exact Reserve.steady_opened _ listing now
  · exact h.steady

/-- a market is not written, or written coherent or as it was -/
theorem Writes.coherent {rs : List (Reserve × Reserve)} {ps : List (Position × Position)} (hw : Writes pool next rs ps)
    (hall : ∀ w ∈ rs, w.1.asset = asset → w.2 = w.1 ∨ w.2.Coherent settings)
    (hs : next.reserves.get? asset = some s) : pool.reserves.get? asset = some s ∨ s.Coherent settings := by
  rcases hw.reserve_cases hs with ⟨w, hm, rfl, rfl⟩ | ⟨_, hold⟩
  · rcases hall w hm rfl with hsame | hcoherent
    · exact .inl (hsame ▸ (hw.reserve w hm).1)
    · exact .inr hcoherent
  · exact .inl hold

/-- an action leaves a market as it was, or coherent -/
theorem Effect.coherent {now : Nat} {action : Action} (h : Effect now pool next action) (hp : pool.WellFormed)
    (hsteady : ∀ {asset settings r}, pool.configs.get? asset = some settings → pool.reserves.get? asset = some r →
      r.Steady settings.unbackedMintCap)
    (hc : pool.configs.get? asset = some settings) (hs : next.reserves.get? asset = some s) :
    pool.reserves.get? asset = some s ∨ s.Coherent settings := by
  cases h with
  | account hsettings ha hb hw =>
    obtain ⟨hr, _⟩ := accountOf_eq_ok ha
    have hcoherent := Account.perform_coherent (hsteady hsettings hr) hb
    refine hw.coherent (List.forall_mem_singleton.2 fun he => .inr ?_) hs
    rw [← hp.asset hr, he, hc] at hsettings
    cases hsettings
    exact hcoherent
  | setCollateral _ _ hw => exact hw.coherent (List.forall_mem_nil _) hs
  | selfTransfer _ _ _ _ hw => exact hw.coherent (List.forall_mem_nil _) hs
  | transfer _ _ _ _ _ hw => exact hw.coherent (List.forall_mem_nil _) hs
  | liquidation hread hdc hcc ho hw =>
    have hb := bookOf_eq_ok hread
    obtain ⟨hdebt, hcollateral⟩ := Liquidation.Book.liquidate_coherent (hsteady hdc hb.debtReserve)
      (hsteady hcc hb.collateralReserve) ho
    refine hw.coherent (List.forall_mem_cons.2 ⟨fun he => .inr ?_, List.forall_mem_singleton.2 fun he => ?_⟩) hs
    · rw [← hp.asset hb.debtReserve, he, hc] at hdc
      cases hdc
      exact hdebt
    · rw [← hp.asset hb.collateralReserve, he, hc] at hcc
      cases hcc
      exact hcollateral

/-- an event keeps every market settled -/
theorem step_settled {event : Event} (hp : pool.WellFormed) (hmay : allowed event)
    (hsettled : ∀ {asset settings r}, pool.configs.get? asset = some settings → pool.reserves.get? asset = some r →
      Settled allowed settings r)
    (h : pool.step event = .ok next) (hc : next.configs.get? asset = some settings)
    (hs : next.reserves.get? asset = some s) : Settled allowed settings s := by
  cases event with
  | list config listing now =>
    obtain ⟨_, _, rfl⟩ := list_eq_ok h
    rw [Table.get?_insert] at hc hs
    split at hc
    · next he =>
      rw [if_pos he] at hs
      cases hc
      cases hs
      exact .inl ⟨listing, now, hmay, rfl⟩
    · next hne =>
      rw [if_neg hne] at hs
      exact hsettled hc hs
  | setWallet owner asset amount =>
    obtain ⟨_, _, hw⟩ := setWallet_writes hp h
    rw [hw.configs_eq] at hc
    rw [hw.get?_reserve_of_ne (List.forall_mem_nil _)] at hs
    exact hsettled hc hs
  | request request =>
    have heffect := act_effect hp h
    obtain ⟨_, _, hw⟩ := heffect.writes
    rw [hw.configs_eq] at hc
    rcases heffect.coherent hp (fun hc hr => (hsettled hc hr).steady) hc hs with hold | hcoherent
    · exact hsettled hc hold
    · exact .inr hcoherent

theorem Reaches.settled (h : Reaches allowed pool) (hc : pool.configs.get? asset = some settings)
    (hr : pool.reserves.get? asset = some r) : Settled allowed settings r := by
  induction h generalizing asset settings r with
  | create hcreate =>
    obtain ⟨_, rfl⟩ := create_eq_ok hcreate
    cases hr
  | step before may hs ih => exact step_settled before.wellFormed may ih hs hc hr

/-- **After any run, a market is as it was listed in the run, or coherent under its settings.** -/
theorem reserve_coherent {config : PoolConfig} {events : List Event} (h : runFrom config events = .ok pool)
    (hr : pool.reserves.get? asset = some r) :
    ∃ settings, pool.configs.get? asset = some settings ∧
      ((∃ listing now, Event.list settings listing now ∈ events ∧ listing.asset = asset ∧ r = .opened listing now) ∨
        r.Coherent settings) := by
  have hreach : Reaches (· ∈ events) pool := Reaches.of_runFrom (fun _ he => he) h
  have hp := hreach.wellFormed
  obtain ⟨settings, hc⟩ := Option.isSome_iff_exists.1 ((hp.listed asset).2 (has_of_get? hr))
  refine ⟨settings, hc, ?_⟩
  rcases hreach.settled hc hr with ⟨listing, now, hlisted, rfl⟩ | hcoherent
  · exact .inl ⟨listing, now, hlisted, hp.asset hr, rfl⟩
  · exact .inr hcoherent

/-- the market of the debt is lent out, so it is not as it was listed -/
theorem reserve_coherent_liquidations :
    ∃ pool reserve settings, runFrom Sample.poolConfig Sample.liquidations = .ok pool ∧
      pool.reserves.get? Sample.debt = some reserve ∧ pool.configs.get? Sample.debt = some settings ∧
      reserve.Coherent settings := by
  obtain ⟨pool, hrun, reserve, hr, howed⟩ :
      ∃ pool, runFrom Sample.poolConfig Sample.liquidations = .ok pool ∧
        ∃ reserve ∈ pool.reserves.get? Sample.debt, reserve.scaledVariableDebt ≠ 0 := by
    decide +kernel
  obtain ⟨settings, hc, ⟨_, _, _, _, rfl⟩ | hcoherent⟩ := reserve_coherent hrun hr
  · exact absurd rfl howed
  · exact ⟨pool, reserve, settings, hrun, hr, hc, hcoherent⟩

end Pool

end Lending
