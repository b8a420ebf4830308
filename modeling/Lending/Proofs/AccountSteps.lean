/-
What each step of an action does to an account.

One lemma for every action, and for every step that actions share. It gives the checks that were passed, the amounts in
question, and the market and the position as they are afterwards. What an action keeps is proved from these lemmas; the
actions themselves are not opened again.
-/
import Lending.Account.Action
import Lending.Proofs.Position

namespace Lending

open UInt256

namespace Account

variable {a b : Account} {amount : UInt256} {now : Nat} {curve : RateCurve}

/-! ## Accruing and settling -/

theorem accrue_eq_ok (h : a.accrue now = .ok b) :
    ∃ r p, a.reserve.accrue now = .ok r ∧ a.position.accrue r now = .ok p ∧ b = ⟨r, p⟩ := by
  simp only [accrue, bind_eq_ok] at h
  obtain ⟨r, hr, p, hp, h⟩ := h
  cases h
  exact ⟨r, p, hr, hp, rfl⟩

theorem settle_eq_ok (h : a.settle now = .ok b) :
    ∃ p, a.position.accrue a.reserve now = .ok p ∧ b = { a with position := p } := by
  simp only [settle, bind_eq_ok] at h
  obtain ⟨p, hp, h⟩ := h
  cases h
  exact ⟨p, hp, rfl⟩

/-! ## Supply -/

theorem supply_spec (h : a.supply curve amount = .ok b) :
    ∃ refreshed scaled, a.reserve.refresh curve amount 0 = .ok refreshed ∧
      refreshed.scaleSupply amount = .ok scaled ∧ scaled ≠ 0 ∧
      ∃ (total held wallet : UInt256) (collateral : Bool),
        b = ⟨{ refreshed with scaledSupply := total },
          { a.position with scaledSupply := held, collateral, wallet }⟩ ∧
        total.toNat = refreshed.scaledSupply.toNat + scaled.toNat ∧
        held.toNat = a.position.scaledSupply.toNat + scaled.toNat ∧
        collateral = (decide (a.position.scaledSupply = 0 ∧ scaled ≠ 0) || a.position.collateral) ∧
        wallet.toNat + amount.toNat = a.position.wallet.toNat := by
  simp only [supply, bind_eq_ok, require_eq_ok] at h
  obtain ⟨refreshed, hr, scaled, hs, _, hne, minted, hm, added, ha, spent, hp, h⟩ := h
  cases h
  obtain ⟨total, rfl, htotal⟩ := Reserve.mintSupply_spec hm
  obtain ⟨held, collateral, rfl, hheld, hcollateral⟩ := Position.addSupply_spec ha
  obtain ⟨wallet, rfl, hwallet⟩ := Position.spend_spec hp
  exact ⟨refreshed, scaled, hr, hs, hne, total, held, wallet, collateral, rfl, htotal, hheld, hcollateral, hwallet⟩

/-- the amount that a withdrawal of `amount` pays out -/
def withdrawn (amount : UInt256) (a : Account) : UInt256 :=
  if amount = maxValue then a.position.supply else amount

theorem withdraw_spec (h : a.withdraw curve amount = .ok b) :
    a.withdrawn amount ≠ 0 ∧ a.withdrawn amount ≤ a.position.supply ∧ a.withdrawn amount ≤ a.reserve.available ∧
      ∃ scaled refreshed, a.position.scaledPart (a.withdrawn amount) a.reserve = .ok scaled ∧
        a.reserve.refresh curve 0 (a.withdrawn amount) = .ok refreshed ∧
        ∃ (total held wallet : UInt256) (collateral : Bool),
          b = ⟨{ refreshed with scaledSupply := total },
            { a.position with scaledSupply := held, collateral, wallet }⟩ ∧
          total.toNat + scaled.toNat = refreshed.scaledSupply.toNat ∧
          held.toNat + scaled.toNat = a.position.scaledSupply.toNat ∧
          collateral = (decide (held ≠ 0) && a.position.collateral) ∧
          wallet.toNat = a.position.wallet.toNat + (a.withdrawn amount).toNat := by
  simp only [withdraw, bind_eq_ok, require_eq_ok] at h
  obtain ⟨_, hne, _, ⟨hsupply, havailable⟩, scaled, hs, refreshed, hr, burnt, hb, removed, hm, received, hv, h⟩ := h
  cases h
  obtain ⟨total, rfl, htotal⟩ := Reserve.burnSupply_spec hb
  obtain ⟨held, collateral, rfl, hheld, hcollateral⟩ := Position.removeSupply_spec hm
  obtain ⟨wallet, rfl, hwallet⟩ := Position.receive_spec hv
  exact ⟨hne, hsupply, havailable, scaled, refreshed, hs, hr, total, held, wallet, collateral, rfl, htotal, hheld,
    hcollateral, hwallet⟩

theorem setCollateral_spec {enabled : Bool} {p : Position} (h : a.setCollateral enabled now = .ok p) :
    ∃ accrued, a.accrue now = .ok accrued ∧ p = { accrued.position with collateral := enabled } ∧
      (enabled = true → accrued.position.scaledSupply ≠ 0) := by
  obtain ⟨accrued, ha, h⟩ := bind_eq_ok.1 h
  exact ⟨accrued, ha, Position.setCollateral_spec h⟩

/-! ## Debt -/

theorem takeOn_variable_spec (h : a.takeOn amount now .variableRate = .ok b) :
    ∃ scaled, a.reserve.scaleDebt amount = .ok scaled ∧ ∃ total worth held : UInt256,
      b = ⟨{ a.reserve with scaledVariableDebt := total, totalVariableDebt := worth },
        { a.position with scaledVariableDebt := held }⟩ ∧
      total.toNat = a.reserve.scaledVariableDebt.toNat + scaled.toNat ∧
      held.toNat = a.position.scaledVariableDebt.toNat + scaled.toNat := by
  simp only [takeOn, bind_eq_ok] at h
  obtain ⟨scaled, hs, r, hr, p, hp, h⟩ := h
  cases h
  obtain ⟨total, worth, rfl, htotal⟩ := Reserve.mintVariableDebt_spec hr
  obtain ⟨held, rfl, hheld⟩ := Position.addVariableDebt_spec hp
  exact ⟨scaled, hs, total, worth, held, rfl, htotal, hheld⟩

theorem takeOn_stable_spec (h : a.takeOn amount now .stableRate = .ok b) :
    ∃ average total rate held : UInt256,
      b = ⟨{ a.reserve with averageStableRate := average, totalStableDebt := total, principalStableDebt := total,
                            stableDebtUpdated := now },
        { a.position with stableRate := rate, principalStableDebt := held, stableDebt := held,
                          stableUpdated := now }⟩ ∧
      total.toNat = a.reserve.totalStableDebt.toNat + amount.toNat ∧
      held.toNat = a.position.stableDebt.toNat + amount.toNat ∧
      blendedRate a.reserve.totalStableDebt a.reserve.averageStableRate amount a.reserve.rates.stableRate =
        .ok average := by
  simp only [takeOn, bind_eq_ok] at h
  obtain ⟨p, hp, r, hr, h⟩ := h
  cases h
  obtain ⟨average, total, rfl, htotal, haverage⟩ := Reserve.mintStableDebt_spec hr
  obtain ⟨rate, held, rfl, hheld⟩ := Position.addStableDebt_spec hp
  exact ⟨average, total, rate, held, rfl, htotal, hheld, haverage⟩

theorem giveUp_variable_spec (h : a.giveUp amount now .variableRate = .ok b) :
    ∃ scaled, a.position.scaledDebtPart amount a.reserve = .ok scaled ∧ ∃ worth held : UInt256,
      b = ⟨{ a.reserve with scaledVariableDebt := a.reserve.scaledVariableDebt.monus scaled,
                            totalVariableDebt := worth },
        { a.position with scaledVariableDebt := held }⟩ ∧
      held.toNat + scaled.toNat = a.position.scaledVariableDebt.toNat := by
  simp only [giveUp, bind_eq_ok] at h
  obtain ⟨scaled, hs, p, hp, r, hr, h⟩ := h
  cases h
  obtain ⟨worth, rfl⟩ := Reserve.burnVariableDebt_spec hr
  obtain ⟨held, rfl, hheld⟩ := Position.removeVariableDebt_spec hp
  exact ⟨scaled, hs, worth, held, rfl, hheld⟩

/-- variable debt that is given up whole leaves none of it -/
theorem giveUp_variable_whole (h : a.giveUp a.position.variableDebt now .variableRate = .ok b) :
    b.position.scaledVariableDebt = 0 := by
  obtain ⟨scaled, hs, _, held, rfl, hheld⟩ := giveUp_variable_spec h
  rw [Position.scaledDebtPart, if_pos rfl] at hs
  cases hs
  exact eq_zero_of_add_eq hheld

theorem giveUp_stable_spec (h : a.giveUp amount now .stableRate = .ok b) :
    ∃ rest : AveragedDebt, a.reserve.averagedDebt.remove amount a.position.stableRate = .ok rest ∧
      ∃ (held rate : UInt256) (updated : Nat),
        b = ⟨{ a.reserve with averageStableRate := rest.rate, totalStableDebt := rest.debt,
                              principalStableDebt := rest.debt, stableDebtUpdated := now },
          { a.position with principalStableDebt := held, stableDebt := held, stableRate := rate,
                            stableUpdated := updated }⟩ ∧
        held.toNat + amount.toNat = a.position.stableDebt.toNat ∧
        (if held = 0 then rate = 0 ∧ updated = 0 else rate = a.position.stableRate ∧ updated = now) := by
  simp only [giveUp, bind_eq_ok] at h
  obtain ⟨r, hr, p, hp, h⟩ := h
  cases h
  obtain ⟨rest, hrest, rfl⟩ := Reserve.burnStableDebt_spec hr
  obtain ⟨held, rate, updated, rfl, hheld, htime⟩ := Position.removeStableDebt_spec hp
  exact ⟨rest, hrest, held, rate, updated, rfl, hheld, htime⟩

theorem borrow_eq_ok {mode : RateMode} (h : a.borrow curve amount mode now = .ok b) :
    amount ≤ a.reserve.available ∧ ∃ taken, a.takeOn amount now mode = .ok taken ∧
      taken.reserve.refresh curve 0 amount = .ok b.reserve ∧ taken.position.receive amount = .ok b.position := by
  simp only [borrow, bind_eq_ok, require_eq_ok] at h
  obtain ⟨_, hle, taken, ht, r, hr, p, hp, h⟩ := h
  cases h
  exact ⟨hle, taken, ht, hr, hp⟩

theorem repay_eq_ok {mode : RateMode} (h : a.repay curve amount mode now = .ok b) :
    a.position.debt mode ≠ 0 ∧ ∃ given, a.giveUp (min amount (a.position.debt mode)) now mode = .ok given ∧
      given.reserve.refresh curve (min amount (a.position.debt mode)) 0 = .ok b.reserve ∧
      given.position.spend (min amount (a.position.debt mode)) = .ok b.position := by
  simp only [repay, bind_eq_ok, require_eq_ok] at h
  obtain ⟨_, hdebt, given, hg, r, hr, p, hp, h⟩ := h
  cases h
  exact ⟨hdebt, given, hg, hr, hp⟩

theorem convert_eq_ok {source target : RateMode} (h : a.convert curve source target now = .ok b) :
    a.position.debt source ≠ 0 ∧ ∃ given taken, a.giveUp (a.position.debt source) now source = .ok given ∧
      given.takeOn (a.position.debt source) now target = .ok taken ∧
      ∃ r, taken.reserve.refresh curve 0 0 = .ok r ∧ b = { taken with reserve := r } := by
  simp only [convert, bind_eq_ok, require_eq_ok] at h
  obtain ⟨_, hdebt, given, hg, taken, ht, r, hr, h⟩ := h
  cases h
  exact ⟨hdebt, given, taken, hg, ht, r, hr, rfl⟩

/-! ## Unbacked supply and flash loans -/

theorem mintUnbacked_spec {config : ReserveConfig} (h : a.mintUnbacked config amount = .ok b) :
    ∃ unbacked : UInt256, unbacked.toNat = a.reserve.unbacked.toNat + amount.toNat ∧
      Reserve.requireMintCap config.unbackedMintCap { a.reserve with unbacked } = .ok () ∧
      ∃ refreshed scaled, Reserve.refresh config.curve 0 0 { a.reserve with unbacked } = .ok refreshed ∧
        refreshed.scaleSupply amount = .ok scaled ∧ scaled ≠ 0 ∧
        ∃ (total held : UInt256) (collateral : Bool),
          b = ⟨{ refreshed with scaledSupply := total }, { a.position with scaledSupply := held, collateral }⟩ ∧
          total.toNat = refreshed.scaledSupply.toNat + scaled.toNat ∧
          held.toNat = a.position.scaledSupply.toNat + scaled.toNat ∧
          collateral = (decide (a.position.scaledSupply = 0 ∧ scaled ≠ 0) || a.position.collateral) := by
  simp only [mintUnbacked, bind_eq_ok, require_eq_ok] at h
  obtain ⟨minted, hu, _, hcap, refreshed, hr, scaled, hs, _, hne, supplied, hm, added, ha, h⟩ := h
  cases h
  obtain ⟨unbacked, rfl, hunbacked⟩ := Reserve.mintUnbacked_spec hu
  obtain ⟨total, rfl, htotal⟩ := Reserve.mintSupply_spec hm
  obtain ⟨held, collateral, rfl, hheld, hcollateral⟩ := Position.addSupply_spec ha
  exact ⟨unbacked, hunbacked, hcap, refreshed, scaled, hr, hs, hne, total, held, collateral, rfl, htotal, hheld,
    hcollateral⟩

theorem backUnbacked_spec {pool : PoolConfig} {fee : UInt256} (h : a.backUnbacked pool curve amount fee = .ok b) :
    ∃ added, (min amount a.reserve.unbacked).add fee = .ok added ∧ added ≠ 0 ∧
      ∃ split collected, SplitFee.of fee pool.backingFeeToTreasury = .ok split ∧
        a.reserve.collect split = .ok collected ∧
        ∃ unbacked : UInt256, unbacked.toNat + (min amount a.reserve.unbacked).toNat = collected.unbacked.toNat ∧
          Reserve.refresh curve added 0 { collected with unbacked } = .ok b.reserve ∧
          a.position.spend added = .ok b.position := by
  simp only [backUnbacked, bind_eq_ok, require_eq_ok] at h
  obtain ⟨added, hadded, _, hne, split, hsplit, collected, hc, burnt, hb, r, hr, p, hp, h⟩ := h
  cases h
  obtain ⟨unbacked, rfl, hunbacked⟩ := Reserve.burnUnbacked_spec hb
  exact ⟨added, hadded, hne, split, collected, hsplit, hc, unbacked, hunbacked, hr, hp⟩

theorem flashLoan_spec {pool : PoolConfig} (h : a.flashLoan pool curve amount = .ok b) :
    amount ≤ a.reserve.available ∧
      ∃ premium collected, flashLoanPremium amount pool.flashPremium pool.flashPremiumToTreasury = .ok premium ∧
        a.reserve.collect premium = .ok collected ∧ collected.refresh curve premium.total 0 = .ok b.reserve ∧
        a.position.spend premium.total = .ok b.position := by
  simp only [flashLoan, bind_eq_ok, require_eq_ok] at h
  obtain ⟨_, hle, premium, hpremium, collected, hc, r, hr, p, hp, h⟩ := h
  cases h
  exact ⟨hle, premium, collected, hpremium, hc, hr, hp⟩

/-! ## The course of an action -/

theorem perform_eq_ok {pool : PoolConfig} {config : ReserveConfig} {action : AccountAction}
    (h : a.perform pool config now action = .ok b) :
    action.amount? ≠ some 0 ∧ ∃ accrued changed, a.accrue now = .ok accrued ∧
      action.change pool config now accrued = .ok changed ∧ changed.settle now = .ok b := by
  simp only [perform, bind_eq_ok, require_eq_ok] at h
  obtain ⟨_, hpos, accrued, ha, changed, hc, h⟩ := h
  exact ⟨hpos, accrued, changed, ha, hc, h⟩

end Account

/-! ## Transfers -/

namespace Transfer

variable {a b : Transfer} {r : Reserve} {amount : UInt256} {now : Nat}

theorem accrue_eq_ok (h : a.accrue r now = .ok b) :
    ∃ s p, a.sender.accrue r now = .ok s ∧ a.recipient.accrue r now = .ok p ∧ b = ⟨s, p⟩ := by
  simp only [accrue, bind_eq_ok] at h
  obtain ⟨s, hs, p, hp, h⟩ := h
  cases h
  exact ⟨s, p, hs, hp, rfl⟩

theorem move_spec (h : a.move r amount = .ok b) :
    ∃ scaled, a.sender.scaledPart amount r = .ok scaled ∧
      ∃ (left arrived : UInt256) (senderCollateral recipientCollateral : Bool),
        b = ⟨{ a.sender with scaledSupply := left, collateral := senderCollateral },
          { a.recipient with scaledSupply := arrived, collateral := recipientCollateral }⟩ ∧
        left.toNat + scaled.toNat = a.sender.scaledSupply.toNat ∧
        arrived.toNat = a.recipient.scaledSupply.toNat + scaled.toNat ∧
        senderCollateral = (decide (left ≠ 0) && a.sender.collateral) ∧
        recipientCollateral = (decide (a.recipient.scaledSupply = 0 ∧ scaled ≠ 0) || a.recipient.collateral) := by
  simp only [move, bind_eq_ok] at h
  obtain ⟨scaled, hscaled, s, hs, p, hp, h⟩ := h
  cases h
  obtain ⟨left, senderCollateral, rfl, hleft, hsender⟩ := Position.removeSupply_spec hs
  obtain ⟨arrived, recipientCollateral, rfl, harrived, hrecipient⟩ := Position.addSupply_spec hp
  exact ⟨scaled, hscaled, left, arrived, senderCollateral, recipientCollateral, rfl, hleft, harrived, hsender,
    hrecipient⟩

/-- a transfer to oneself only accrues; any other moves supply in between -/
theorem perform_eq_ok (h : a.perform r amount now = .ok b) :
    amount ≠ 0 ∧ ∃ reserve accrued, r.accrue now = .ok reserve ∧ a.accrue reserve now = .ok accrued ∧
      amount ≤ accrued.sender.supply ∧
      if accrued.sender.owner = accrued.recipient.owner then b = ⟨accrued.sender, accrued.sender⟩
      else ∃ moved, accrued.move reserve amount = .ok moved ∧ moved.accrue reserve now = .ok b := by
  simp only [perform, bind_eq_ok, require_eq_ok] at h
  obtain ⟨_, hne, reserve, hr, accrued, ha, _, hle, h⟩ := h
  refine ⟨hne, reserve, accrued, hr, ha, hle, ?_⟩
  split
  · next he =>
    rw [if_pos he] at h
    cases h
    rfl
  · next he =>
    rw [if_neg he, bind_eq_ok] at h
    exact h

end Transfer

end Lending
