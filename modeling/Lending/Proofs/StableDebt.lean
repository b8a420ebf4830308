/-
How the stable debt of a market follows that of a position, when no time passes.

A market keeps its stable debt as a total and one average rate. `AveragedDebt.remove` takes a part out together with
its rate weight, the debt times the rate, and the average of the rest must not go negative. So the removal is clamped: a
part that weighs at least as much as the whole clears the total and the average. `Wipes` is the exact condition under
which the clamp acts on a part that is less than the total.

Without interest a market's total changes by exactly what a position's debt changes by in every step that removes
nothing (`Follows`), and in a removal exactly when the clamp does not act (`Burns`).

Results:
- `AveragedDebt.remove_debt`: what a removal leaves is exactly the rest, unless it is clamped;
- `Account.perform_burns`: at the moment of its last update, the stable debt of a market follows that of a position
  through an action exactly when the clamp does not act on the stable debt that the action gives up;
- `Transfer.perform_holds`, `Account.setCollateral_fresh`: the actions that write no market leave every debt alone.
-/
import Lending.Proofs.Account
import Lending.Proofs.DebtFrames

namespace Lending

open UInt256

/-! ## Averages -/

/-- the clamp acts on taking out `amount`, carried at `rate`: it is less than the whole, and weighs at least as much -/
def AveragedDebt.Wipes (whole : AveragedDebt) (amount rate : UInt256) : Prop :=
  amount ≠ 0 ∧ amount < whole.debt ∧ ∃ weight, rateWeight whole.debt whole.rate = .ok weight ∧
    ∃ removed, rateWeight amount rate = .ok removed ∧ weight ≤ removed

instance (whole : AveragedDebt) (amount rate : UInt256) : Decidable (whole.Wipes amount rate) :=
  inferInstanceAs (Decidable (_ ∧ _ ∧ ∃ _, _ ∧ ∃ _, _ ∧ _))

theorem AveragedDebt.not_wipes_zero (whole : AveragedDebt) (rate : UInt256) : ¬ whole.Wipes 0 rate :=
  fun h => h.1 rfl

/-- what a removal leaves is exactly the rest, unless it is clamped -/
theorem AveragedDebt.remove_debt {whole rest : AveragedDebt} {amount rate : UInt256}
    (hle : amount.toNat ≤ whole.debt.toNat) (hpos : amount ≠ 0) (h : whole.remove amount rate = .ok rest) :
    rest.debt.toNat + amount.toNat = whole.debt.toNat ↔ ¬ whole.Wipes amount rate := by
  rcases remove_eq_ok h with ⟨hall, rfl⟩ | ⟨hlt, weight, removed, hw, hr, ⟨hheavy, rfl⟩ | ⟨hlight, hrest, _⟩⟩
  · -- the whole is taken out
    rw [le_iff] at hall
    refine ⟨fun _ hwipes => ?_, fun _ => ?_⟩
    · have := lt_iff.1 hwipes.2.1
      omega
    · rw [toNat_zero]
      omega
  · -- the part weighs as much as the whole, so the removal is clamped
    have hwipes : whole.Wipes amount rate := ⟨hpos, hlt, weight, hw, removed, hr, hheavy⟩
    refine ⟨fun heq => ?_, fun hn => absurd hwipes hn⟩
    rw [toNat_zero] at heq
    have := lt_iff.1 hlt
    omega
  · refine ⟨fun _ hwipes => ?_, fun _ => ?_⟩
    · obtain ⟨_, _, w, hw', r, hr', hle'⟩ := hwipes
      cases hw.symm.trans hw'
      cases hr.symm.trans hr'
      exact absurd hlight (Nat.not_lt.2 hle')
    · rw [hrest, toNat_monus]
      omega

/-! ## Positions -/

/-- the stable debt -/
def Tally.stable : Tally := ⟨fun r => r.totalStableDebt.toNat, fun p => p.stableDebt.toNat, fun _ _ => rfl⟩

theorem Tally.stable_part {p q : Position} (h : q.stableDebt = p.stableDebt) :
    Tally.stable.part q = Tally.stable.part p := by
  simp only [Tally.stable, h]

/-- the stable debt carries no interest yet at `now` -/
def Position.Fresh (now : Nat) (p : Position) : Prop :=
  p.stableDebt = p.principalStableDebt ∧ (p.principalStableDebt ≠ 0 → p.stableUpdated = now)

theorem Position.fresh_empty (now : Nat) (owner asset : Address) (wallet : UInt256) :
    (empty owner asset wallet).Fresh now :=
  ⟨rfl, fun h => absurd rfl h⟩

theorem Position.Fresh.accrue {p q : Position} {r : Reserve} {now : Nat} (hf : p.Fresh now)
    (h : p.accrue r now = .ok q) : q.Fresh now ∧ q.stableDebt = p.stableDebt := by
  obtain ⟨_, _, _, debt, rfl, _, _, hdebt⟩ := accrue_eq_ok h
  have hsame : debt = p.principalStableDebt := by
    by_cases hp : p.principalStableDebt = 0
    · rw [stableDebtAt, if_pos hp] at hdebt
      cases hdebt
      exact hp.symm
    · rw [hf.2 hp] at hdebt
      exact stableDebtAt_same hdebt
  exact ⟨⟨hsame, hf.2⟩, hsame.trans hf.1.symm⟩

/-- a position that owes what a fresh one owes is fresh -/
theorem Position.Fresh.sameDebts {p q : Position} {now : Nat} (hf : p.Fresh now) (h : p.SameDebts q) : q.Fresh now := by
  obtain ⟨hdebt, hupdated⟩ := hf
  unfold Fresh
  rw [h.stableDebt, h.principalStableDebt, h.stableUpdated]
  exact ⟨hdebt, hupdated⟩

/-! ## Accounts -/

/-- the stable debt that an action gives up, of a position accrued to the moment -/
def AccountAction.stableBurn (position : Position) : AccountAction → UInt256
  | repay amount .stableRate => min amount position.stableDebt
  | swapMode .stableRate | rebalance => position.stableDebt
  | repay _ .variableRate | swapMode .variableRate | supply _ | withdraw _ | borrow _ _ | mintUnbacked _
  | backUnbacked _ _ | flashLoan _ => 0

namespace Account

/-- the market's stable debt changes by what the position's changes by -/
structure Follows (now : Nat) (a b : Account) : Prop where
  lastUpdate : b.reserve.lastUpdate = a.reserve.lastUpdate
  fresh : a.position.Fresh now → b.position.Fresh now
  gap : Tally.stable.gap b = Tally.stable.gap a

/-- it does so exactly when the clamp does not act on giving up `amount`, carried at `rate` -/
structure Burns (now : Nat) (amount rate : UInt256) (a b : Account) : Prop where
  lastUpdate : b.reserve.lastUpdate = a.reserve.lastUpdate
  fresh : a.position.Fresh now → b.position.Fresh now
  gap : Tally.stable.gap b = Tally.stable.gap a ↔ ¬ a.reserve.averagedDebt.Wipes amount rate

variable {a b c : Account} {now : Nat} {amount rate : UInt256}

theorem Follows.refl (now : Nat) (a : Account) : Follows now a a := ⟨rfl, fun h => h, rfl⟩

theorem Follows.trans (h1 : Follows now a b) (h2 : Follows now b c) : Follows now a c :=
  ⟨h2.lastUpdate.trans h1.lastUpdate, fun h => h2.fresh (h1.fresh h), h2.gap.trans h1.gap⟩

theorem Follows.burns (h : Follows now a b) (rate : UInt256) : Burns now 0 rate a b :=
  ⟨h.lastUpdate, h.fresh, fun _ => a.reserve.averagedDebt.not_wipes_zero rate, fun _ => h.gap⟩

theorem Burns.trans (h1 : Burns now amount rate a b) (h2 : Follows now b c) : Burns now amount rate a c :=
  ⟨h2.lastUpdate.trans h1.lastUpdate, fun h => h2.fresh (h1.fresh h), by rw [h2.gap, h1.gap]⟩

/-! ### Accruing and settling -/

theorem accrue_follows (ht : a.reserve.lastUpdate = now) (hf : a.position.Fresh now) (h : a.accrue now = .ok b) :
    b.reserve = a.reserve ∧ b.position.Fresh now ∧ b.position.stableDebt = a.position.stableDebt := by
  obtain ⟨r, p, hr, hp, rfl⟩ := accrue_eq_ok h
  rw [← ht, Reserve.accrue_self] at hr
  cases hr
  exact ⟨rfl, hf.accrue hp⟩

theorem settle_follows (hf : a.position.Fresh now) (h : a.settle now = .ok b) : Follows now a b := by
  obtain ⟨p, hp, rfl⟩ := settle_eq_ok h
  obtain ⟨hfresh, hdebt⟩ := hf.accrue hp
  refine ⟨rfl, fun _ => hfresh, ?_⟩
  simp only [Tally.gap, Tally.stable, hdebt]

/-- what owes nobody anything leaves the stable debt alone -/
theorem SameDebts.follows (h : a.SameDebts b) (now : Nat) : Follows now a b := by
  refine ⟨h.market.lastUpdate, fun hf => hf.sameDebts h.position, ?_⟩
  simp only [Tally.gap, Tally.stable, h.market.totalStableDebt, h.position.stableDebt]

variable {curve : RateCurve}

theorem refresh_follows {added taken : UInt256} {r : Reserve} {p : Position}
    (hr : a.reserve.refresh curve added taken = .ok r) (hp : a.position.SameDebts p) : Follows now a ⟨r, p⟩ :=
  (refresh_sameDebts hr hp).follows now

/-! ### Debt -/

theorem takeOn_follows {mode : RateMode} (h : a.takeOn amount now mode = .ok b) : Follows now a b := by
  cases mode with
  | variableRate =>
    obtain ⟨_, _, _, _, _, rfl, _⟩ := takeOn_variable_spec h
    exact ⟨rfl, fun hf => hf, rfl⟩
  | stableRate =>
    obtain ⟨_, _, _, _, rfl, htotal, hdebt, _⟩ := takeOn_stable_spec h
    refine ⟨rfl, fun _ => ⟨rfl, fun _ => rfl⟩, ?_⟩
    simp only [Tally.gap, Tally.stable]
    omega

theorem giveUp_variable_follows (h : a.giveUp amount now .variableRate = .ok b) : Follows now a b := by
  obtain ⟨_, _, _, _, rfl, _⟩ := giveUp_variable_spec h
  exact ⟨rfl, fun hf => hf, rfl⟩

/-- the position gives up `amount`, and the market the same, or all of its stable debt where the clamp acts -/
theorem giveUp_stable_burns (hle : a.position.stableDebt.toNat ≤ a.reserve.totalStableDebt.toNat) (hpos : amount ≠ 0)
    (h : a.giveUp amount now .stableRate = .ok b) : Burns now amount a.position.stableRate a b := by
  obtain ⟨rest, hrest, debt, _, updated, rfl, hdebt, htime⟩ := giveUp_stable_spec h
  refine ⟨rfl, fun _ => ⟨rfl, fun hne => ?_⟩, ?_⟩
  · dsimp only at hne ⊢
    rw [if_neg hne] at htime
    exact htime.2
  · have hpart : amount.toNat ≤ a.reserve.averagedDebt.debt.toNat := by
      show amount.toNat ≤ a.reserve.totalStableDebt.toNat
      omega
    rw [← AveragedDebt.remove_debt hpart hpos hrest]
    simp only [Tally.gap, Tally.stable, Reserve.averagedDebt]
    omega

theorem borrow_follows {mode : RateMode} (h : a.borrow curve amount mode now = .ok b) : Follows now a b := by
  obtain ⟨_, taken, ht, hr, hp⟩ := borrow_eq_ok h
  exact (takeOn_follows ht).trans (refresh_follows hr (Position.receive_sameDebts hp))

theorem repay_burns (hle : a.position.stableDebt.toNat ≤ a.reserve.totalStableDebt.toNat) (hpos : amount ≠ 0)
    {mode : RateMode} (h : a.repay curve amount mode now = .ok b) :
    Burns now ((AccountAction.repay amount mode).stableBurn a.position) a.position.stableRate a b := by
  obtain ⟨hdebt, given, hg, hr, hp⟩ := repay_eq_ok h
  have hrest : Follows now given b := refresh_follows hr (Position.spend_sameDebts hp)
  cases mode with
  | variableRate => exact ((giveUp_variable_follows hg).burns _).trans hrest
  | stableRate =>
    have hpayback : min amount a.position.stableDebt ≠ 0 := by
      intro h0
      have hmin := congrArg toNat h0
      rw [toNat_min, toNat_zero] at hmin
      have hamount := toNat_pos hpos
      have howed : 0 < a.position.stableDebt.toNat := toNat_pos hdebt
      omega
    exact (giveUp_stable_burns hle hpayback hg).trans hrest

theorem convert_burns (hle : a.position.stableDebt.toNat ≤ a.reserve.totalStableDebt.toNat) {target : RateMode}
    (h : a.convert curve .stableRate target now = .ok b) :
    Burns now a.position.stableDebt a.position.stableRate a b := by
  obtain ⟨hdebt, given, taken, hg, ht, r, hr, rfl⟩ := convert_eq_ok h
  have hrest : Follows now taken _ := refresh_follows hr (Position.SameDebts.refl _)
  exact (giveUp_stable_burns hle hdebt hg).trans ((takeOn_follows ht).trans hrest)

theorem convert_follows {target : RateMode} (h : a.convert curve .variableRate target now = .ok b) :
    Follows now a b := by
  obtain ⟨_, given, taken, hg, ht, r, hr, rfl⟩ := convert_eq_ok h
  exact (giveUp_variable_follows hg).trans ((takeOn_follows ht).trans (refresh_follows hr (Position.SameDebts.refl _)))

/-! ### All nine actions -/

theorem change_burns (hle : a.position.stableDebt.toNat ≤ a.reserve.totalStableDebt.toNat) {pool : PoolConfig}
    {config : ReserveConfig} {action : AccountAction} (hpos : action.amount? ≠ some 0)
    (h : action.change pool config now a = .ok b) :
    Burns now (action.stableBurn a.position) a.position.stableRate a b := by
  cases action with
  | supply amount => exact ((supply_sameDebts h).follows now).burns _
  | withdraw amount => exact ((withdraw_sameDebts h).follows now).burns _
  | borrow amount mode => exact (borrow_follows h).burns _
  | repay amount mode => exact repay_burns hle (fun h0 => hpos (congrArg some h0)) h
  | swapMode mode =>
    cases mode with
    | stableRate => exact convert_burns hle h
    | variableRate => exact (convert_follows h).burns _
  | rebalance => exact convert_burns hle h
  | mintUnbacked amount => exact ((mintUnbacked_sameDebts h).follows now).burns _
  | backUnbacked amount fee => exact ((backUnbacked_sameDebts h).follows now).burns _
  | flashLoan amount => exact ((flashLoan_sameDebts h).follows now).burns _

/-- **At the moment of its last update, the stable debt of a market follows that of a position through an action exactly
when the clamp does not act on what the action gives up.** -/
theorem perform_burns (ht : a.reserve.lastUpdate = now) (hf : a.position.Fresh now)
    (hle : a.position.stableDebt.toNat ≤ a.reserve.totalStableDebt.toNat) {pool : PoolConfig}
    {config : ReserveConfig} {action : AccountAction} (h : a.perform pool config now action = .ok b) :
    b.reserve.lastUpdate = now ∧ b.position.Fresh now ∧ ∃ accrued, a.accrue now = .ok accrued ∧
      (Tally.stable.gap b = Tally.stable.gap a ↔
        ¬ accrued.reserve.averagedDebt.Wipes (action.stableBurn accrued.position) accrued.position.stableRate) := by
  obtain ⟨hpos, accrued, changed, ha, hc, h⟩ := perform_eq_ok h
  obtain ⟨hreserve, hfresh, hdebt⟩ := accrue_follows ht hf ha
  have hgap : Tally.stable.gap accrued = Tally.stable.gap a := by
    simp only [Tally.gap, Tally.stable, hreserve, hdebt]
  rw [← hdebt, ← hreserve] at hle
  have hchange := change_burns hle hpos hc
  have hburns := hchange.trans (settle_follows (hchange.fresh hfresh) h)
  refine ⟨?_, hburns.fresh hfresh, accrued, ha, ?_⟩
  · rw [hburns.lastUpdate, hreserve, ht]
  · rw [← hgap]
    exact hburns.gap

theorem setCollateral_fresh (hf : a.position.Fresh now) {enabled : Bool} {p : Position}
    (h : a.setCollateral enabled now = .ok p) : p.Fresh now ∧ p.stableDebt = a.position.stableDebt := by
  obtain ⟨accrued, ha, rfl, _⟩ := setCollateral_spec h
  obtain ⟨_, q, _, hq, rfl⟩ := accrue_eq_ok ha
  have hkept := hf.accrue hq
  exact hkept

end Account

/-! ## Transfers -/

namespace Transfer

/-- both positions are fresh, and owe what those of `a` owe -/
structure Holds (now : Nat) (a b : Transfer) : Prop where
  sender : b.sender.Fresh now
  recipient : b.recipient.Fresh now
  senderDebt : b.sender.stableDebt = a.sender.stableDebt
  recipientDebt : b.recipient.stableDebt = a.recipient.stableDebt

variable {a b c : Transfer} {now : Nat}

theorem Holds.trans (h1 : Holds now a b) (h2 : Holds now b c) : Holds now a c :=
  ⟨h2.sender, h2.recipient, h2.senderDebt.trans h1.senderDebt, h2.recipientDebt.trans h1.recipientDebt⟩

theorem accrue_holds {r : Reserve} (hs : a.sender.Fresh now) (hr : a.recipient.Fresh now)
    (h : a.accrue r now = .ok b) : Holds now a b := by
  obtain ⟨s, p, hsender, hrecipient, rfl⟩ := accrue_eq_ok h
  obtain ⟨hsf, hsd⟩ := hs.accrue hsender
  obtain ⟨hrf, hrd⟩ := hr.accrue hrecipient
  exact ⟨hsf, hrf, hsd, hrd⟩

/-- passing supply on leaves both debts alone -/
theorem perform_holds {r : Reserve} {amount : UInt256} (hs : a.sender.Fresh now) (hr : a.recipient.Fresh now)
    (hne : a.sender.owner ≠ a.recipient.owner) (h : a.perform r amount now = .ok b) : Holds now a b := by
  obtain ⟨_, reserve, accrued, _, ha, _, h⟩ := perform_eq_ok h
  have haccrued := accrue_holds hs hr ha
  rw [if_neg (mt (accrue_moves ha).owners_iff.1 hne)] at h
  obtain ⟨moved, hm, h⟩ := h
  have hmoved : Holds now accrued moved := by
    obtain ⟨_, _, _, _, _, _, rfl, _⟩ := move_spec hm
    exact ⟨haccrued.sender, haccrued.recipient, rfl, rfl⟩
  exact (haccrued.trans hmoved).trans (accrue_holds hmoved.sender hmoved.recipient h)

end Transfer

end Lending
