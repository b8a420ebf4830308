/-
Why an action on an account can be refused.

An account that is accrued to the moment is `Accrued`: its market is sound, its balances are its scaled balances at the
indices, and the market's supply covers the position's. On such an account nothing is subtracted that is not there and
nothing is divided by zero, so every action fails for ordinary reasons only. There are two exceptions, each with its
condition: the cap on unbacked supply, and a fee for suppliers when there are none.

Results:
- `failsOnly_perform`: the causes for which an action on an account can be refused;
- `Transfer.failsOnly_perform`, `Account.failsOnly_setCollateral`: the other actions on supply fail for ordinary
  reasons.
-/
import Lending.Proofs.Account

namespace Lending

open UInt256

variable {S : Fault → Prop}

/-! ## Fees -/

/-- a treasury's share of at most one hundred percent leaves a rest -/
theorem SplitFee.failsOnly_of (ho : S .overflow) (total : UInt256) {share : Nat} (h : share ≤ hundredPercent) :
    FailsOnly S (SplitFee.of total share) := by
  apply (failsOnly_percentMul ho total share).bind
  intro treasury ht
  refine FailsOnly.bind (failsOnly_sub ?_) fun _ _ => failsOnly_pure _
  rw [toNat_percentMul ht]
  exact halfUp_mul_le (by decide) _ h

theorem failsOnly_flashLoanPremium (ho : S .overflow) (amount : UInt256) (premium : Nat) {share : Nat}
    (h : share ≤ hundredPercent) : FailsOnly S (flashLoanPremium amount premium share) :=
  (failsOnly_percentMul ho amount premium).bind fun total _ => SplitFee.failsOnly_of ho total h

/-- what `requireMintCap` refuses is above the cap, or the cap in units does not fit -/
theorem Reserve.failsOnly_requireMintCap (ho : S .overflow) (hm : S .mintCapExceeded) (cap : Nat) (r : Reserve) :
    FailsOnly S (r.requireMintCap cap) := by
  refine FailsOnly.bind (failsOnly_ite (fun _ => failsOnly_fit ho _) fun _ => failsOnly_error ho) fun _ _ => ?_
  exact (failsOnly_fit ho _).bind fun _ _ => failsOnly_require fun _ => hm

namespace Account

/-! ## Accrued accounts -/

/-- the balances are the scaled balances at the indices, and the market's supply covers the position's -/
structure Accrued (a : Account) : Prop where
  sound : a.reserve.Sound
  supply : a.position.scaledSupply.rayMul a.reserve.liquidityIndex = .ok a.position.supply
  variableDebt : a.position.scaledVariableDebt.rayMul a.reserve.debtIndex = .ok a.position.variableDebt
  covered : a.position.scaledSupply.toNat ≤ a.reserve.scaledSupply.toNat

theorem accrue_accrued {a b : Account} {now : Nat} (hs : a.reserve.Sound)
    (hc : a.position.scaledSupply.toNat ≤ a.reserve.scaledSupply.toNat) (h : a.accrue now = .ok b) : b.Accrued := by
  obtain ⟨r, p, hr, hp, rfl⟩ := accrue_eq_ok h
  have hsound := hs.grows (Reserve.accrue_grows hr)
  obtain ⟨_, _, _, _, rfl, hsupply, hvariable, _⟩ := Position.accrue_eq_ok hp
  obtain ⟨_, _, _, _, _, _, rfl, _⟩ := Reserve.accrue_eq_ok hr
  exact ⟨hsound, hsupply, hvariable, hc⟩

theorem failsOnly_accrue (ho : S .overflow) (hb : S .badRequest) {a : Account} (hs : a.reserve.Sound) (now : Nat) :
    FailsOnly S (a.accrue now) :=
  (Reserve.failsOnly_accrue ho hs.liquidityIndex_ne_zero fun _ => hb).bind fun _ _ =>
    (Position.failsOnly_accrue ho fun _ => hb).bind fun _ _ => failsOnly_pure _

/-- an account is settled at any time that is not before its stable debt -/
theorem failsOnly_settle (ho : S .overflow) {a : Account} {now : Nat}
    (hb : ¬ (a.reserve.asset = a.position.asset ∧ a.position.stableUpdated ≤ now) → S .badRequest) :
    FailsOnly S (a.settle now) :=
  (Position.failsOnly_accrue ho hb).bind fun _ _ => failsOnly_pure _

/-! ## Supply -/

variable {curve : RateCurve} {a : Account}

/-- a market that is paid into can be refreshed -/
theorem failsOnly_refresh_paid (ho : S .overflow) (hc : curve.Bends) {r : Reserve} (hs : r.Sound) (added : UInt256) :
    FailsOnly S (r.refresh curve added 0) :=
  Reserve.failsOnly_refresh ho hc hs.factor (by rw [toNat_zero]; omega)

theorem failsOnly_supply (ho : S .overflow) (hb : S .badRequest) (hc : curve.Bends) (hs : a.reserve.Sound)
    (amount : UInt256) : FailsOnly S (a.supply curve amount) := by
  apply (failsOnly_refresh_paid ho hc hs amount).bind
  intro refreshed hr
  have hindex := (hs.grows (Reserve.refresh_grows hr)).liquidityIndex_ne_zero
  apply (Reserve.failsOnly_scaleSupply ho hindex amount).bind
  intro scaled _
  refine (failsOnly_require fun _ => hb).bind fun _ _ => ?_
  refine (Reserve.failsOnly_mintSupply ho scaled refreshed).bind fun _ _ => ?_
  refine (Position.failsOnly_addSupply ho scaled a.position).bind fun _ _ => ?_
  exact (Position.failsOnly_spend fun _ => hb).bind fun _ _ => failsOnly_pure _

/-- a withdrawal that the balance and the market cover overflows, if it is refused at all -/
theorem failsOnly_withdraw (ho : S .overflow) (hc : curve.Bends) (ha : a.Accrued) {amount : UInt256}
    (hb : ¬ (a.withdrawn amount ≠ 0 ∧ a.withdrawn amount ≤ a.position.supply ∧
      a.withdrawn amount ≤ a.reserve.available) → S .badRequest) : FailsOnly S (a.withdraw curve amount) := by
  unfold withdrawn at hb
  unfold withdraw
  dsimp only
  generalize (if amount = maxValue then a.position.supply else amount) = amount at hb ⊢
  refine (failsOnly_require fun h0 => hb fun h => h0 h.1).bind fun _ _ => ?_
  apply (failsOnly_require fun hnot => hb fun h => hnot h.2).bind
  intro _ hle
  obtain ⟨hbalance, havailable⟩ := require_eq_ok.1 hle
  rw [le_iff] at hbalance havailable
  apply (Position.failsOnly_scaledPart ho ha.sound.liquidityIndex_ne_zero amount _).bind
  intro scaled hscaled
  have hpart := Position.scaledPart_le ha.sound.liquidityIndex ha.supply hbalance hscaled
  have htaken : amount.toNat ≤ a.reserve.available.toNat + (0 : UInt256).toNat := by omega
  apply (Reserve.failsOnly_refresh ho hc ha.sound.factor htaken).bind
  intro refreshed hr
  have hcovered := ha.covered
  obtain ⟨_, _, _, _, rfl, _⟩ := Reserve.refresh_spec hr
  refine FailsOnly.bind (Reserve.failsOnly_burnSupply (by dsimp only; omega)) fun _ _ => ?_
  refine (Position.failsOnly_removeSupply hpart).bind fun _ _ => ?_
  exact (Position.failsOnly_receive ho amount _).bind fun _ _ => failsOnly_pure _

theorem failsOnly_setCollateral (ho : S .overflow) (hb : S .badRequest) (hs : a.reserve.Sound) (enabled : Bool)
    (now : Nat) : FailsOnly S (a.setCollateral enabled now) :=
  (failsOnly_accrue ho hb hs now).bind fun _ _ => Position.failsOnly_setCollateral hb enabled _

/-! ## Debt -/

theorem failsOnly_takeOn (ho : S .overflow) (hs : a.reserve.Sound) (amount : UInt256) (now : Nat) (mode : RateMode) :
    FailsOnly S (a.takeOn amount now mode) := by
  cases mode with
  | variableRate =>
    apply (Reserve.failsOnly_scaleDebt ho hs.debtIndex_ne_zero amount).bind
    intro scaled _
    refine (Reserve.failsOnly_mintVariableDebt ho scaled _).bind fun _ _ => ?_
    exact (Position.failsOnly_addVariableDebt ho scaled _).bind fun _ _ => failsOnly_pure _
  | stableRate =>
    refine (Position.failsOnly_addStableDebt ho amount _ now _).bind fun _ _ => ?_
    exact (Reserve.failsOnly_mintStableDebt ho amount _ now _).bind fun _ _ => failsOnly_pure _

/-- no more stable debt is given up than is owed -/
theorem failsOnly_giveUp_stable (ho : S .overflow) {amount : UInt256} (now : Nat)
    (hle : amount.toNat ≤ a.position.stableDebt.toNat) : FailsOnly S (a.giveUp amount now .stableRate) := by
  refine (Reserve.failsOnly_burnStableDebt ho amount _ now _).bind fun _ _ => ?_
  exact (Position.failsOnly_removeStableDebt hle now).bind fun _ _ => failsOnly_pure _

/-- and no more variable debt, which is scaled for that -/
theorem failsOnly_giveUp_variable (ho : S .overflow) (hs : a.reserve.Sound)
    (hv : a.position.scaledVariableDebt.rayMul a.reserve.debtIndex = .ok a.position.variableDebt) {amount : UInt256}
    (now : Nat) (hle : amount.toNat ≤ a.position.variableDebt.toNat) :
    FailsOnly S (a.giveUp amount now .variableRate) := by
  apply (Position.failsOnly_scaledDebtPart ho hs.debtIndex_ne_zero amount _).bind
  intro scaled hscaled
  have hpart := Position.scaledDebtPart_le hs.debtIndex hv hle hscaled
  refine (Position.failsOnly_removeVariableDebt hpart).bind fun _ _ => ?_
  exact (Reserve.failsOnly_burnVariableDebt ho scaled _).bind fun _ _ => failsOnly_pure _

theorem failsOnly_giveUp (ho : S .overflow) (ha : a.Accrued) {amount : UInt256} (now : Nat) {mode : RateMode}
    (hle : amount.toNat ≤ (a.position.debt mode).toNat) : FailsOnly S (a.giveUp amount now mode) := by
  cases mode with
  | variableRate => exact failsOnly_giveUp_variable ho ha.sound ha.variableDebt now hle
  | stableRate => exact failsOnly_giveUp_stable ho now hle

theorem takeOn_available {b : Account} {amount : UInt256} {now : Nat} {mode : RateMode}
    (h : a.takeOn amount now mode = .ok b) : b.reserve.available = a.reserve.available := by
  cases mode with
  | variableRate =>
    obtain ⟨_, _, _, _, _, rfl, _⟩ := takeOn_variable_spec h
    rfl
  | stableRate =>
    obtain ⟨_, _, _, _, rfl, _⟩ := takeOn_stable_spec h
    rfl

theorem failsOnly_borrow (ho : S .overflow) (hb : S .badRequest) (hc : curve.Bends) (hs : a.reserve.Sound)
    (amount : UInt256) (mode : RateMode) (now : Nat) : FailsOnly S (a.borrow curve amount mode now) := by
  apply (failsOnly_require fun _ => hb).bind
  intro _ hle
  have hle := le_iff.1 (require_eq_ok.1 hle)
  apply (failsOnly_takeOn ho hs amount now mode).bind
  intro taken ht
  have hsound := hs.grows (takeOn_moves ht).grows
  have havailable := takeOn_available ht
  refine FailsOnly.bind (Reserve.failsOnly_refresh ho hc hsound.factor ?_) fun _ _ => ?_
  · rw [havailable]
    omega
  · exact (Position.failsOnly_receive ho amount _).bind fun _ _ => failsOnly_pure _

/-- debt is given up on paper, and the underlying for it moves later -/
theorem giveUp_cash {b : Account} {amount : UInt256} {now : Nat} {mode : RateMode}
    (h : a.giveUp amount now mode = .ok b) :
    b.reserve.available = a.reserve.available ∧ b.position.wallet = a.position.wallet := by
  cases mode with
  | variableRate =>
    obtain ⟨_, _, _, _, rfl, _⟩ := giveUp_variable_spec h
    exact ⟨rfl, rfl⟩
  | stableRate =>
    obtain ⟨_, _, _, _, _, rfl, _⟩ := giveUp_stable_spec h
    exact ⟨rfl, rfl⟩

/-- a repayment of debt that there is and that the wallet can pay overflows, if it is refused at all -/
theorem failsOnly_repay (ho : S .overflow) (hc : curve.Bends) (ha : a.Accrued) {amount : UInt256} {mode : RateMode}
    (hb : ¬ (a.position.debt mode ≠ 0 ∧ min amount (a.position.debt mode) ≤ a.position.wallet) → S .badRequest)
    (now : Nat) : FailsOnly S (a.repay curve amount mode now) := by
  refine (failsOnly_require fun h0 => hb fun h => h0 h.1).bind fun _ _ => ?_
  refine FailsOnly.bind (failsOnly_giveUp ho ha now ?_) fun given hg => ?_
  · rw [toNat_min]
    exact Nat.min_le_right _ _
  · have hsound := ha.sound.grows (giveUp_moves hg).grows
    refine (failsOnly_refresh_paid ho hc hsound _).bind fun _ _ => ?_
    rw [← (giveUp_cash hg).2] at hb
    exact (Position.failsOnly_spend fun hpoor => hb fun h => hpoor h.2).bind fun _ _ => failsOnly_pure _

theorem failsOnly_convert (ho : S .overflow) (hb : S .badRequest) (hc : curve.Bends) (ha : a.Accrued)
    (source target : RateMode) (now : Nat) : FailsOnly S (a.convert curve source target now) := by
  refine (failsOnly_require fun _ => hb).bind fun _ _ => ?_
  apply (failsOnly_giveUp ho ha now le_rfl).bind
  intro given hg
  have hgiven := ha.sound.grows (giveUp_moves hg).grows
  apply (failsOnly_takeOn ho hgiven _ now target).bind
  intro taken ht
  have htaken := hgiven.grows (takeOn_moves ht).grows
  exact (failsOnly_refresh_paid ho hc htaken 0).bind fun _ _ => failsOnly_pure _

/-! ## Unbacked supply and flash loans -/

theorem failsOnly_mintUnbacked (ho : S .overflow) (hb : S .badRequest) (hm : S .mintCapExceeded)
    {config : ReserveConfig} (hc : config.curve.Bends) (hs : a.reserve.Sound) (amount : UInt256) :
    FailsOnly S (a.mintUnbacked config amount) := by
  apply (Reserve.failsOnly_mintUnbacked ho amount _).bind
  intro unbacked hu
  have hunbacked : unbacked.Sound := by
    obtain ⟨_, rfl, _⟩ := Reserve.mintUnbacked_spec hu
    exact ⟨hs.liquidityIndex, hs.debtIndex, hs.factor⟩
  refine (Reserve.failsOnly_requireMintCap ho hm _ _).bind fun _ _ => ?_
  apply (failsOnly_refresh_paid ho hc hunbacked 0).bind
  intro refreshed hr
  have hindex := (hunbacked.grows (Reserve.refresh_grows hr)).liquidityIndex_ne_zero
  apply (Reserve.failsOnly_scaleSupply ho hindex amount).bind
  intro scaled _
  refine (failsOnly_require fun _ => hb).bind fun _ _ => ?_
  refine (Reserve.failsOnly_mintSupply ho scaled _).bind fun _ _ => ?_
  exact (Position.failsOnly_addSupply ho scaled _).bind fun _ _ => failsOnly_pure _

theorem failsOnly_backUnbacked (ho : S .overflow) (hb : S .badRequest)
    (hz : a.reserve.totalSupply = .ok 0 → S .divisionByZero) {pool : PoolConfig} (hp : pool.Valid) (hc : curve.Bends)
    (hs : a.reserve.Sound) (amount fee : UInt256) : FailsOnly S (a.backUnbacked pool curve amount fee) := by
  apply (failsOnly_add ho _ fee).bind
  intro added _
  refine (failsOnly_require fun _ => hb).bind fun _ _ => ?_
  apply (SplitFee.failsOnly_of ho fee hp.feeShare_le).bind
  intro split _
  apply (Reserve.failsOnly_collect ho hs hz split).bind
  intro collected hcollected
  have hsound := hs.grows (collect_moves hcollected collected.unbacked).grows
  obtain ⟨_, _, rfl, _⟩ := Reserve.collect_spec hcollected
  refine FailsOnly.bind (Reserve.failsOnly_burnUnbacked ?_) fun burnt hburnt => ?_
  · rw [toNat_min]
    exact Nat.min_le_right _ _
  · have hrest : burnt.Sound := by
      obtain ⟨_, rfl, _⟩ := Reserve.burnUnbacked_spec hburnt
      exact ⟨hsound.liquidityIndex, hsound.debtIndex, hsound.factor⟩
    refine (failsOnly_refresh_paid ho hc hrest added).bind fun _ _ => ?_
    exact (Position.failsOnly_spend fun _ => hb).bind fun _ _ => failsOnly_pure _

theorem failsOnly_flashLoan (ho : S .overflow) (hb : S .badRequest)
    (hz : a.reserve.totalSupply = .ok 0 → S .divisionByZero) {pool : PoolConfig} (hp : pool.Valid) (hc : curve.Bends)
    (hs : a.reserve.Sound) (amount : UInt256) : FailsOnly S (a.flashLoan pool curve amount) := by
  refine (failsOnly_require fun _ => hb).bind fun _ _ => ?_
  apply (failsOnly_flashLoanPremium ho amount _ hp.premiumShare_le).bind
  intro premium _
  apply (Reserve.failsOnly_collect ho hs hz premium).bind
  intro collected hcollected
  have hsound := hs.grows (collect_moves hcollected collected.unbacked).grows
  refine (failsOnly_refresh_paid ho hc hsound premium.total).bind fun _ _ => ?_
  exact (Position.failsOnly_spend fun _ => hb).bind fun _ _ => failsOnly_pure _

/-! ## All nine actions -/

end Account

/-- the actions on which a market is paid a fee -/
def AccountAction.PaysFee : AccountAction → Prop
  | .backUnbacked _ _ | .flashLoan _ => True
  | .supply _ | .withdraw _ | .borrow _ _ | .repay _ _ | .swapMode _ | .rebalance | .mintUnbacked _ => False

/-- the action of minting unbacked supply -/
def AccountAction.MintsUnbacked : AccountAction → Prop
  | .mintUnbacked _ => True
  | .supply _ | .withdraw _ | .borrow _ _ | .repay _ _ | .swapMode _ | .rebalance | .backUnbacked _ _
  | .flashLoan _ => False

namespace Account

theorem failsOnly_change (ho : S .overflow) (hb : S .badRequest) {a : Account} (ha : a.Accrued) {pool : PoolConfig}
    (hp : pool.Valid) {config : ReserveConfig} (hc : config.curve.Bends) {action : AccountAction}
    (hm : action.MintsUnbacked → S .mintCapExceeded)
    (hz : action.PaysFee → a.reserve.totalSupply = .ok 0 → S .divisionByZero) (now : Nat) :
    FailsOnly S (action.change pool config now a) := by
  cases action with
  | supply amount => exact failsOnly_supply ho hb hc ha.sound amount
  | withdraw amount => exact failsOnly_withdraw ho hc ha fun _ => hb
  | borrow amount mode => exact failsOnly_borrow ho hb hc ha.sound amount mode now
  | repay amount mode => exact failsOnly_repay ho hc ha (fun _ => hb) now
  | swapMode mode => exact failsOnly_convert ho hb hc ha mode mode.other now
  | rebalance => exact failsOnly_convert ho hb hc ha .stableRate .stableRate now
  | mintUnbacked amount => exact failsOnly_mintUnbacked ho hb (hm trivial) hc ha.sound amount
  | backUnbacked amount fee => exact failsOnly_backUnbacked ho hb (hz trivial) hp hc ha.sound amount fee
  | flashLoan amount => exact failsOnly_flashLoan ho hb (hz trivial) hp hc ha.sound amount

/-- **An action on an account fails for ordinary reasons, for the cap on unbacked supply, or because it pays a fee to
suppliers that do not exist.** -/
theorem failsOnly_perform (ho : S .overflow) (hb : S .badRequest) {a : Account} (hs : a.reserve.Sound)
    (hcovered : a.position.scaledSupply.toNat ≤ a.reserve.scaledSupply.toNat) {pool : PoolConfig} (hp : pool.Valid)
    {config : ReserveConfig} (hc : config.curve.Bends) {now : Nat} {action : AccountAction}
    (hm : action.MintsUnbacked → S .mintCapExceeded)
    (hz : action.PaysFee → ∀ accrued, a.reserve.accrue now = .ok accrued → accrued.totalSupply = .ok 0 →
      S .divisionByZero) : FailsOnly S (a.perform pool config now action) := by
  refine (failsOnly_require fun _ => hb).bind fun _ _ => ?_
  apply (failsOnly_accrue ho hb hs now).bind
  intro accrued ha
  have hfee : action.PaysFee → accrued.reserve.totalSupply = .ok 0 → S .divisionByZero := by
    intro hpays hzero
    obtain ⟨r, _, hr, _, rfl⟩ := accrue_eq_ok ha
    exact hz hpays r hr hzero
  apply (failsOnly_change ho hb (accrue_accrued hs hcovered ha) hp hc hm hfee now).bind
  intro changed _
  exact failsOnly_settle ho fun _ => hb

end Account

/-! ## Transfers -/

namespace Transfer

theorem failsOnly_accrue (ho : S .overflow) (hb : S .badRequest) (r : Reserve) (now : Nat) (transfer : Transfer) :
    FailsOnly S (transfer.accrue r now) :=
  (Position.failsOnly_accrue ho fun _ => hb).bind fun _ _ =>
    (Position.failsOnly_accrue ho fun _ => hb).bind fun _ _ => failsOnly_pure _

theorem failsOnly_perform (ho : S .overflow) (hb : S .badRequest) {r : Reserve} (hs : r.Sound) (amount : UInt256)
    (now : Nat) (transfer : Transfer) : FailsOnly S (transfer.perform r amount now) := by
  refine (failsOnly_require fun _ => hb).bind fun _ _ => ?_
  apply (Reserve.failsOnly_accrue ho hs.liquidityIndex_ne_zero fun _ => hb).bind
  intro reserve hr
  have hsound := hs.grows (Reserve.accrue_grows hr)
  apply (failsOnly_accrue ho hb reserve now transfer).bind
  intro accrued ha
  apply (failsOnly_require fun _ => hb).bind
  intro _ hle
  refine failsOnly_ite (fun _ => failsOnly_pure _) fun _ => FailsOnly.bind ?_ fun _ _ => failsOnly_accrue ho hb _ _ _
  have hsupply : accrued.sender.scaledSupply.rayMul reserve.liquidityIndex = .ok accrued.sender.supply := by
    obtain ⟨s, _, hs, _, rfl⟩ := accrue_eq_ok ha
    obtain ⟨_, _, _, _, rfl, hsupply, _⟩ := Position.accrue_eq_ok hs
    exact hsupply
  apply (Position.failsOnly_scaledPart ho hsound.liquidityIndex_ne_zero amount _).bind
  intro scaled hscaled
  have hbalance := le_iff.1 (require_eq_ok.1 hle)
  have hpart := Position.scaledPart_le hsound.liquidityIndex hsupply hbalance hscaled
  refine (Position.failsOnly_removeSupply hpart).bind fun _ _ => ?_
  exact (Position.failsOnly_addSupply ho scaled _).bind fun _ _ => failsOnly_pure _

end Transfer

end Lending
