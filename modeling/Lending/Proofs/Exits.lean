/-
Leaving a market.

Whoever has supplied what the market can pay out, or owes what the wallet can pay back, can leave: the request for all
of it is refused only where a number does not fit. The market covers the scaled supply of each position, a stable debt
that is cleared has no date that could lie ahead, and a market that is left empty still has rates. A market with a
reserve factor above one hundred percent has none, but for that very reason nobody has a part in it.

Results:
- `factor_rule`, `Reaches.factor_le_of_supply`: where somebody has a part, the reserve factor is at most one hundred
  percent;
- `Account.failsOnly_perform_of_accrue`: what an account that can be accrued refuses an action for;
- `Account.withdraw_all`, `Account.repay_all`: what is left by leaving;
- `exits_open`: all of it for the stored positions of any pool that is reached.
-/
import Lending.Proofs.CatchUp

namespace Lending

open UInt256

/-! ## Being free of debt -/

/-- nothing is stored of the debt of one kind, nor of its terms -/
def Position.FreeOf (p : Position) : RateMode → Prop
  | .variableRate => p.scaledVariableDebt = 0
  | .stableRate => p.principalStableDebt = 0 ∧ p.stableRate = 0 ∧ p.stableUpdated = 0

namespace Position

variable {p q : Position} {mode : RateMode}

theorem freeOf_empty (owner asset : Address) (wallet : UInt256) (mode : RateMode) :
    (empty owner asset wallet).FreeOf mode := by
  cases mode with
  | variableRate => rfl
  | stableRate => exact ⟨rfl, rfl, rfl⟩

theorem FreeOf.of_owed (h : p.FreeOf mode) (he : q.owed = p.owed) : q.FreeOf mode := by
  simp only [owed, Prod.mk.injEq] at he
  obtain ⟨hscaled, hprincipal, hrate, hupdated⟩ := he
  cases mode with
  | variableRate => exact hscaled.trans h
  | stableRate => exact ⟨hprincipal.trans h.1, hrate.trans h.2.1, hupdated.trans h.2.2⟩

/-- where there is no debt, interest makes none -/
theorem FreeOf.accrue (h : p.FreeOf mode) {r : Reserve} {now : Nat} (ha : p.accrue r now = .ok q) :
    q.FreeOf mode ∧ q.debt mode = 0 := by
  refine ⟨h.of_owed (accrue_parts ha).1, ?_⟩
  obtain ⟨_, _, _, _, rfl, _, hvariable, hstable⟩ := accrue_eq_ok ha
  cases mode with
  | variableRate =>
    have hnone : p.scaledVariableDebt = 0 := h
    rw [hnone, zero_rayMul] at hvariable
    exact (Except.ok.inj hvariable).symm
  | stableRate =>
    rw [stableDebtAt, if_pos h.1] at hstable
    exact (Except.ok.inj hstable).symm

end Position

/-! ## Markets in which somebody has a part -/

/-- what moves a debt leaves rates behind, and they bound the reserve factor -/
theorem factor_rule (mode : RateMode) :
    DebtRule fun p r => ¬ p.FreeOf mode → r.listing.reserveFactor ≤ hundredPercent where
  empty owner asset _ howes := absurd (Position.freeOf_empty owner asset 0 mode) howes
  carried hfactor howed hg howes := by
    rw [hg.listing]
    exact hfactor fun hfree => howes (hfree.of_owed howed)
  account hsteady _ h _ := (Account.perform_coherent hsteady h).factor_le
  liquidation hdebt hcollateral _ h _ := (Liquidation.Book.liquidate_coherent hdebt hcollateral h).1.factor_le

/-- a market that is as it was listed has no suppliers -/
theorem Pool.Reaches.factor_le_of_supply {allowed : Event → Prop} {pool : Pool} (h : Reaches allowed pool)
    {owner asset : Address} {r : Reserve} {p : Position} (hr : pool.reserves.get? asset = some r)
    (hp : pool.positionOf owner asset = .ok p) (hs : p.scaledSupply ≠ 0) :
    r.listing.reserveFactor ≤ hundredPercent := by
  have hle := h.scaledSupply_le hr hp
  obtain ⟨settings, hc⟩ := h.wellFormed.settingsOf hr
  rcases h.settled hc hr with ⟨listing, now, _, rfl⟩ | hcoherent
  · exact absurd (eq_zero_iff.2 (Nat.le_zero.1 hle)) hs
  · exact hcoherent.factor_le

/-! ## Accounts -/

namespace Account

variable {a b c : Account} {curve : RateCurve} {now : Nat} {mode : RateMode}

theorem accrue_position (h : a.accrue now = .ok b) :
    a.reserve.lastUpdate ≤ now ∧ a.position.accrue b.reserve now = .ok b.position := by
  obtain ⟨_, _, hr, hp, rfl⟩ := accrue_eq_ok h
  exact ⟨(Reserve.accrue_eq_ok hr).1, hp⟩

theorem accrue_asset (h : a.accrue now = .ok b) : b.reserve.asset = b.position.asset := by
  obtain ⟨hasset, _, _, _, hb, _⟩ := Position.accrue_eq_ok (accrue_position h).2
  rw [hasset, hb]

/-- **An account that can be accrued refuses an action for what its change is refused.** What is left to do is to settle
the position, whose stable debt is not dated later than now. -/
theorem failsOnly_perform_of_accrue {S : Fault → Prop} (ho : S .overflow) (hd : a.position.Dated now)
    (ha : a.accrue now = .ok b) {pool : PoolConfig} {config : ReserveConfig} {action : AccountAction}
    (hpos : action.amount? ≠ some 0) (hc : FailsOnly S (action.change pool config now b)) :
    FailsOnly S (a.perform pool config now action) := by
  refine (failsOnly_require (absurd hpos)).bind fun _ _ => FailsOnly.bind_ok ha ?_
  apply hc.bind
  intro changed hchanged
  have hmoves := change_moves hchanged
  have hasset : changed.reserve.asset = changed.position.asset := by
    rw [Reserve.asset, hmoves.grows.listing]
    exact (accrue_asset ha).trans (congrArg PositionKey.asset hmoves.key).symm
  have hdated := change_dated (hd.of_owed (Position.accrue_parts (accrue_position ha).2).1) hpos hchanged
  exact failsOnly_settle ho (absurd ⟨hasset, hdated.updated⟩)

/-- `c` is `a` after all of the balance was paid out -/
structure PaysOut (a c : Account) : Prop where
  scaledSupply : c.position.scaledSupply = 0
  supply : c.position.supply = 0
  collateral : c.position.collateral = false
  wallet : c.position.wallet.toNat = a.position.wallet.toNat + a.position.supply.toNat
  available : c.reserve.available.toNat + a.position.supply.toNat = a.reserve.available.toNat

/-- `c` is `a` after all of the debt of one kind was paid off -/
structure PaysOff (mode : RateMode) (a c : Account) : Prop where
  free : c.position.FreeOf mode
  debt : c.position.debt mode = 0
  wallet : c.position.wallet.toNat + (a.position.debt mode).toNat = a.position.wallet.toNat
  available : c.reserve.available.toNat = a.reserve.available.toNat + (a.position.debt mode).toNat

theorem withdrawn_all (a : Account) : a.withdrawn maxValue = a.position.supply := if_pos rfl

/-- the whole balance stands for all of the scaled balance, so nothing is left of it -/
theorem withdraw_all (h : a.withdraw curve maxValue = .ok b) (hs : b.settle now = .ok c) : a.PaysOut c := by
  obtain ⟨_, _, _, scaled, refreshed, hscaled, hr, _, held, wallet, _, rfl, _, hheld, rfl, hwallet⟩ := withdraw_spec h
  rw [withdrawn_all] at hscaled hr hwallet
  rw [Position.scaledPart, if_pos rfl] at hscaled
  cases hscaled
  obtain rfl := eq_zero_of_add_eq hheld
  obtain ⟨_, _, _, _, rfl, havailable, _⟩ := Reserve.refresh_spec hr
  obtain ⟨_, hp, rfl⟩ := settle_eq_ok hs
  obtain ⟨_, supply, _, _, rfl, hsupply, _⟩ := Position.accrue_eq_ok hp
  rw [zero_rayMul] at hsupply
  rw [toNat_zero, Nat.add_zero] at havailable
  exact ⟨rfl, (Except.ok.inj hsupply).symm, rfl, hwallet, havailable⟩

theorem giveUp_free (h : a.giveUp (a.position.debt mode) now mode = .ok b) : b.position.FreeOf mode := by
  cases mode with
  | variableRate => exact giveUp_variable_whole h
  | stableRate =>
    obtain ⟨_, _, held, _, _, rfl, hheld, hterms⟩ := giveUp_stable_spec h
    obtain rfl : held = 0 := eq_zero_of_add_eq hheld
    rw [if_pos rfl] at hterms
    exact ⟨rfl, hterms⟩

/-- the whole debt is given up, and interest does not bring it back -/
theorem repay_all (h : a.repay curve maxValue mode now = .ok b) (hs : b.settle now = .ok c) : a.PaysOff mode c := by
  obtain ⟨_, given, hg, hr, hspent⟩ := repay_eq_ok h
  rw [min_maxValue] at hg hr hspent
  obtain ⟨havailable, hwallet⟩ := giveUp_cash hg
  have hfree := (giveUp_free hg).of_owed (Position.spend_parts hspent).1
  obtain ⟨_, hrest, hpaid⟩ := Position.spend_spec hspent
  obtain ⟨_, _, _, _, hrefreshed, hreceived, _⟩ := Reserve.refresh_spec hr
  obtain ⟨_, hp, rfl⟩ := settle_eq_ok hs
  obtain ⟨hfree, hnone⟩ := hfree.accrue hp
  have hkept := (Position.accrue_parts hp).2.2
  refine ⟨hfree, hnone, ?_, ?_⟩
  · rw [hkept, hrest, ← hwallet]
    exact hpaid
  · rw [toNat_zero, havailable] at hreceived
    rw [hrefreshed]
    exact hreceived

end Account

/-! ## Pools -/

namespace Pool

variable {pool : Pool} {allowed : Event → Prop} {key : PositionKey} {stored a : Account} {now : Nat}

/-- the position in a place, and its market -/
structure Stores (pool : Pool) (key : PositionKey) (account : Account) : Prop where
  reserve : pool.reserves.get? key.asset = some account.reserve
  position : pool.positions.get? key = some account.position

theorem Stores.positionOf (h : pool.Stores key stored) : pool.positionOf key.owner key.asset = .ok stored.position :=
  positionOf_eq_ok.2 ⟨has_of_get? h.reserve, by rw [h.position, Option.getD_some]⟩

theorem Stores.accountOf (h : pool.Stores key stored) : pool.accountOf key.owner key.asset = .ok stored := by
  rw [Pool.accountOf, bind_eq_ok]
  refine ⟨stored.reserve, reserveOf_eq_ok.2 h.reserve, ?_⟩
  rw [h.positionOf]
  rfl

/-- nothing but a number that does not fit can stop an action on the account in a place, and this is what it leaves -/
structure Grants (pool : Pool) (now : Nat) (key : PositionKey) (action : AccountAction) (leaves : Account → Prop) :
    Prop where
  refused : FailsOnly (· = .overflow) (pool.apply ⟨now, .account key.owner key.asset action⟩)
  left : ∀ next, pool.apply ⟨now, .account key.owner key.asset action⟩ = .ok next →
    ∃ account, next.Stores key account ∧ leaves account

section Grants

variable {action : AccountAction} {leaves : Account → Prop}

/-- the pool refuses what the account refuses, and writes what the account becomes -/
theorem Stores.grants (hs : pool.Stores key stored) (hp : pool.WellFormed) {config : ReserveConfig}
    (hc : pool.configs.get? key.asset = some config)
    (hf : FailsOnly (· = .overflow) (stored.perform pool.config config now action))
    (hl : ∀ b, stored.perform pool.config config now action = .ok b → leaves b) :
    pool.Grants now key action leaves := by
  constructor
  · refine FailsOnly.bind_ok (configOf_eq_ok.2 hc) (FailsOnly.bind_ok hs.accountOf ?_)
    exact hf.bind fun _ _ => failsOnly_pure _
  · intro next h
    cases act_effect hp h with
    | account settings read result writes =>
      cases settings.symm.trans hc
      cases read.symm.trans hs.accountOf
      refine ⟨_, ⟨?_, ?_⟩, hl _ result⟩
      · rw [← hp.asset hs.reserve]
        exact writes.get?_reserve List.mem_cons_self
      · rw [← hp.key hs.position]
        exact writes.get?_position List.mem_cons_self

/-- in a market that can be refreshed it is enough to look at the change of the accrued account -/
theorem Reaches.grants (h : Reaches allowed pool) (hs : pool.Stores key stored) (ha : stored.accrue now = .ok a)
    (hfactor : stored.reserve.listing.reserveFactor ≤ hundredPercent) (hpos : action.amount? ≠ some 0)
    (hc : ∀ config : ReserveConfig, config.curve.Bends → a.Accrued →
      FailsOnly (· = .overflow) (action.change pool.config config now a))
    (hl : ∀ (config : ReserveConfig) (b c : Account), action.change pool.config config now a = .ok b →
      b.settle now = .ok c → leaves c) : pool.Grants now key action leaves := by
  have hp := h.wellFormed
  obtain ⟨config, hconfig⟩ := hp.settingsOf hs.reserve
  have hrange := h.inRange hs.reserve
  have haccrued : a.Accrued := Account.accrue_accrued ⟨hrange.liquidityIndex, hrange.debtIndex, hfactor⟩
    (h.scaledSupply_le hs.reserve hs.positionOf) ha
  have hdated := (h.dated_stored hs.position hs.reserve).mono (Account.accrue_position ha).1
  refine hs.grants hp hconfig ?_ fun c hperform => ?_
  · have hchange := hc config (hp.settings hconfig).bends haccrued
    exact Account.failsOnly_perform_of_accrue (S := (· = .overflow)) rfl hdated ha hpos hchange
  · obtain ⟨_, accrued, changed, ha', hchanged, hsettled⟩ := Account.perform_eq_ok hperform
    cases ha'.symm.trans ha
    exact hl config changed c hchanged hsettled

end Grants

/-- **Nobody is kept in a market.** A supplier whose balance the market can pay, and a borrower whose wallet can pay a
debt of either kind, at a time to which the position can be brought: the request for all of it can only overflow, and if
it goes through, exactly that amount changes hands and nothing is left of the balance or of the debt. -/
theorem exits_open (h : Reachable pool) (hs : pool.Stores key stored) (ha : stored.accrue now = .ok a) :
    (stored.position.scaledSupply ≠ 0 → a.position.supply ≤ a.reserve.available →
      pool.Grants now key (.withdraw maxValue) a.PaysOut) ∧
    ∀ mode, a.position.debt mode ≠ 0 → a.position.debt mode ≤ a.position.wallet →
      pool.Grants now key (.repay maxValue mode) (a.PaysOff mode) := by
  have hmax {action : AccountAction} (hall : action.amount? = some maxValue) : action.amount? ≠ some 0 := by
    rw [hall]
    decide
  have hp := (Account.accrue_position ha).2
  refine ⟨fun hsupplied hcovered => ?_, fun mode howes hcovered => ?_⟩
  · have hfactor := h.factor_le_of_supply hs.reserve hs.positionOf hsupplied
    refine h.grants hs ha hfactor (hmax rfl) (fun config hc haccrued => ?_) fun _ _ _ => Account.withdraw_all
    refine Account.failsOnly_withdraw (S := (· = .overflow)) rfl hc haccrued (absurd ?_)
    rw [Account.withdrawn_all]
    refine ⟨fun hnone => hsupplied ?_, le_iff.2 le_rfl, hcovered⟩
    -- at an index of at least one, the balance is no less than the scaled one
    have hle := le_of_rayMul haccrued.sound.liquidityIndex haccrued.supply
    rw [hnone, toNat_zero, Nat.le_zero, ← eq_zero_iff] at hle
    exact (congrArg Prod.fst (Position.accrue_parts hp).2.1).symm.trans hle
  · have hfactor := h.binds (factor_rule mode) |>.stored hs.position hs.reserve
      fun hfree => howes (hfree.accrue hp).2
    refine h.grants hs ha hfactor (hmax rfl) (fun config hc haccrued => ?_) fun _ _ _ => Account.repay_all
    refine Account.failsOnly_repay (S := (· = .overflow)) rfl hc haccrued (absurd ⟨howes, ?_⟩) now
    rwa [min_maxValue]

end Pool

/-- a borrower supplies 10 tokens of the borrowed asset and keeps 110 of them -/
def Sample.lentBack : List Event :=
  borrowed ++ [.setWallet borrower debt (tokens 120), .request ⟨0, .account borrower debt (.supply (tokens 10))⟩]

/-- an hour later the borrower can leave on both sides, with the interest earned and the interest owed -/
theorem Pool.exits_open_borrower :
    ∃ (pool withdrawn repaid : Pool) (stored a b c : Account),
      runFrom Sample.poolConfig Sample.lentBack = .ok pool ∧ pool.Stores ⟨Sample.borrower, Sample.debt⟩ stored ∧
      stored.accrue 3600 = .ok a ∧ Sample.tokens 10 < a.position.supply ∧ Sample.tokens 50 < a.position.variableDebt ∧
      pool.apply ⟨3600, .account Sample.borrower Sample.debt (.withdraw maxValue)⟩ = .ok withdrawn ∧
      withdrawn.Stores ⟨Sample.borrower, Sample.debt⟩ b ∧ a.PaysOut b ∧
      pool.apply ⟨3600, .account Sample.borrower Sample.debt (.repay maxValue .variableRate)⟩ = .ok repaid ∧
      repaid.Stores ⟨Sample.borrower, Sample.debt⟩ c ∧ a.PaysOff .variableRate c := by
  obtain ⟨pool, hrun, r, hr, p, hq, hsupplied, a, ha, hearned, howed, hcovered, howes, hpays, ⟨withdrawn, hw, _⟩,
      repaid, hp, _⟩ :
      ∃ pool, runFrom Sample.poolConfig Sample.lentBack = .ok pool ∧
        ∃ r ∈ pool.reserves.get? Sample.debt, ∃ p ∈ pool.positions.get? ⟨Sample.borrower, Sample.debt⟩,
          p.scaledSupply ≠ 0 ∧ ∃ a, Account.accrue 3600 ⟨r, p⟩ = .ok a ∧ Sample.tokens 10 < a.position.supply ∧
            Sample.tokens 50 < a.position.variableDebt ∧ a.position.supply ≤ a.reserve.available ∧
            a.position.debt .variableRate ≠ 0 ∧ a.position.debt .variableRate ≤ a.position.wallet ∧
            (∃ next, pool.apply ⟨3600, .account Sample.borrower Sample.debt (.withdraw maxValue)⟩ = .ok next ∧ True) ∧
            ∃ next, pool.apply ⟨3600, .account Sample.borrower Sample.debt (.repay maxValue .variableRate)⟩ =
              .ok next ∧ True := by
    decide +kernel
  have hreach : Reachable pool := Reaches.of_runFrom (fun _ _ => trivial) hrun
  have hstores : pool.Stores ⟨Sample.borrower, Sample.debt⟩ ⟨r, p⟩ := ⟨hr, hq⟩
  obtain ⟨hwithdraw, hrepay⟩ := exits_open hreach hstores ha
  obtain ⟨b, hb, hpaid⟩ := (hwithdraw hsupplied hcovered).left withdrawn hw
  obtain ⟨c, hc, hcleared⟩ := (hrepay .variableRate howes hpays).left repaid hp
  exact ⟨pool, withdrawn, repaid, ⟨r, p⟩, a, b, c, hrun, hstores, ha, hearned, howed, hw, hb, hpaid, hp, hc, hcleared⟩

end Lending
