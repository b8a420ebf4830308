/-
What each phase of a liquidation does to the book.

As for accounts, one lemma for every phase: the checks that were passed, the amounts in question, and the book as it is
afterwards.
-/
import Lending.Liquidation.Book
import Lending.Proofs.AccountSteps

namespace Lending.Liquidation

open UInt256

/-! ## Covering a debt -/

section Debt

variable {a b : Account} {covered : UInt256} {now : Nat}

/-- variable debt is cleared by giving up all of it, unless there is none -/
theorem clearVariableDebt_cases (h : clearVariableDebt now a = .ok b) :
    (a.position.variableDebt = 0 ∧ b = a) ∨
      (a.position.variableDebt ≠ 0 ∧ a.giveUp a.position.variableDebt now .variableRate = .ok b) := by
  unfold clearVariableDebt at h
  split at h
  · next h0 =>
    cases h
    exact .inl ⟨h0, rfl⟩
  · next hne => exact .inr ⟨hne, h⟩

/-- clearing the variable debt leaves everything alone that a removal of stable debt looks at -/
theorem clearVariableDebt_same (h : clearVariableDebt now a = .ok b) :
    b.reserve.averagedDebt = a.reserve.averagedDebt ∧ b.position.stableDebt = a.position.stableDebt ∧
      b.position.stableRate = a.position.stableRate := by
  rcases clearVariableDebt_cases h with ⟨_, rfl⟩ | ⟨_, h⟩
  · exact ⟨rfl, rfl, rfl⟩
  · obtain ⟨_, _, _, _, rfl, _⟩ := Account.giveUp_variable_spec h
    exact ⟨rfl, rfl, rfl⟩

/-- variable debt alone covers the amount, or it is cleared and stable debt covers the rest -/
theorem coverDebt_cases (h : coverDebt covered now a = .ok b) :
    (covered ≤ a.position.variableDebt ∧ a.giveUp covered now .variableRate = .ok b) ∨
      (¬ covered ≤ a.position.variableDebt ∧ ∃ cleared, clearVariableDebt now a = .ok cleared ∧
        cleared.giveUp (covered.monus a.position.variableDebt) now .stableRate = .ok b) := by
  unfold coverDebt at h
  split at h
  · next hall => exact .inl ⟨hall, h⟩
  · next hmore => exact .inr ⟨hmore, bind_eq_ok.1 h⟩

end Debt

namespace Book

variable {a b : Book} {curve : RateCurve} {amount covered scaled : UInt256} {now : Nat}

/-! ## Accruing and settling -/

theorem accrueReserves_eq_ok (h : a.accrueReserves now = .ok b) :
    ∃ debtReserve collateralReserve, a.debtReserve.accrue now = .ok debtReserve ∧
      a.collateralReserve.accrue now = .ok collateralReserve ∧ b = { a with debtReserve, collateralReserve } := by
  simp only [accrueReserves, bind_eq_ok] at h
  obtain ⟨d, hd, c, hc, h⟩ := h
  cases h
  exact ⟨d, c, hd, hc, rfl⟩

/-- the positions that `a` has once the reserves of `a` stand at `now` -/
structure Settles (now : Nat) (a : Book) (p : Parties) : Prop where
  borrowerDebt : a.parties.borrowerDebt.accrue a.debtReserve now = .ok p.borrowerDebt
  borrowerCollateral : a.parties.borrowerCollateral.accrue a.collateralReserve now = .ok p.borrowerCollateral
  liquidatorDebt : a.parties.liquidatorDebt.accrue a.debtReserve now = .ok p.liquidatorDebt
  liquidatorCollateral : a.parties.liquidatorCollateral.accrue a.collateralReserve now = .ok p.liquidatorCollateral
  treasury : a.parties.treasury.accrue a.collateralReserve now = .ok p.treasury

theorem settle_eq_ok (h : a.settle now = .ok b) : ∃ p, a.Settles now p ∧ b = { a with parties := p } := by
  simp only [settle, bind_eq_ok] at h
  obtain ⟨bd, hbd, ld, hld, bc, hbc, lc, hlc, t, ht, h⟩ := h
  cases h
  exact ⟨_, ⟨hbd, hbc, hld, hlc, ht⟩, rfl⟩

theorem accrue_eq_ok (h : a.accrue now = .ok b) :
    ∃ accrued, a.accrueReserves now = .ok accrued ∧ accrued.settle now = .ok b := bind_eq_ok.1 h

/-! ## Repaying -/

theorem repay_spec (h : a.repay curve covered now = .ok b) :
    ∃ given r p, coverDebt covered now ⟨a.debtReserve, a.parties.borrowerDebt⟩ = .ok given ∧
      given.reserve.refresh curve covered 0 = .ok r ∧ a.parties.liquidatorDebt.spend covered = .ok p ∧
      b = { a with debtReserve := r,
                   parties := { a.parties with borrowerDebt := given.position, liquidatorDebt := p } } := by
  simp only [repay, bind_eq_ok] at h
  obtain ⟨given, hg, r, hr, p, hp, h⟩ := h
  cases h
  exact ⟨given, r, p, hg, hr, hp, rfl⟩

/-- repaying leaves the side of the collateral alone -/
theorem repay_collateral (h : a.repay curve covered now = .ok b) :
    b.collateralReserve = a.collateralReserve ∧ b.parties.borrowerCollateral = a.parties.borrowerCollateral := by
  obtain ⟨_, _, _, _, _, _, rfl⟩ := repay_spec h
  exact ⟨rfl, rfl⟩

/-! ## Seizing -/

theorem seizeSupply_spec (h : a.seizeSupply scaled = .ok b) :
    ∃ p q, a.parties.borrowerCollateral.removeSupply scaled = .ok p ∧
      a.parties.liquidatorCollateral.addSupply scaled = .ok q ∧
      b = { a with parties := { a.parties with borrowerCollateral := p, liquidatorCollateral := q } } := by
  simp only [seizeSupply, bind_eq_ok] at h
  obtain ⟨p, hp, q, hq, h⟩ := h
  cases h
  exact ⟨p, q, hp, hq, rfl⟩

theorem seizeUnderlying_spec (h : a.seizeUnderlying curve amount scaled = .ok b) :
    amount ≤ a.collateralReserve.available ∧ ∃ refreshed p q,
      a.collateralReserve.refresh curve 0 amount = .ok refreshed ∧
      a.parties.borrowerCollateral.removeSupply scaled = .ok p ∧
      a.parties.liquidatorCollateral.receive amount = .ok q ∧ ∃ total : UInt256,
        b = { a with collateralReserve := { refreshed with scaledSupply := total },
                     parties := { a.parties with borrowerCollateral := p, liquidatorCollateral := q } } ∧
        total.toNat + scaled.toNat = refreshed.scaledSupply.toNat := by
  simp only [seizeUnderlying, bind_eq_ok, require_eq_ok] at h
  obtain ⟨_, hle, refreshed, hr, burnt, hb, p, hp, q, hq, h⟩ := h
  cases h
  obtain ⟨total, rfl, htotal⟩ := Reserve.burnSupply_spec hb
  exact ⟨hle, refreshed, p, q, hr, hp, hq, total, rfl, htotal⟩

/-- a fee that is worth nothing is not charged -/
theorem chargeFee_cases (h : a.chargeFee scaled = .ok b) :
    (scaled = 0 ∧ b = a) ∨ ∃ p q, a.parties.borrowerCollateral.removeSupply scaled = .ok p ∧
      a.parties.treasury.creditSupply scaled = .ok q ∧
      b = { a with parties := { a.parties with borrowerCollateral := p, treasury := q } } := by
  unfold chargeFee at h
  split at h
  · next h0 =>
    cases h
    exact .inl ⟨h0, rfl⟩
  · simp only [bind_eq_ok] at h
    obtain ⟨p, hp, q, hq, h⟩ := h
    cases h
    exact .inr ⟨p, q, hp, hq, rfl⟩

theorem seize_spec {amounts : Amounts} {receiveSupply : Bool} (h : a.seize curve amounts receiveSupply = .ok b) :
    ∃ scaled taken charged, a.scaledSeizure amounts = .ok scaled ∧
      a.take curve amounts.liquidatorCollateral scaled.toLiquidator receiveSupply = .ok taken ∧
      taken.chargeFee scaled.toTreasury = .ok charged ∧
      b = if a.SeizesAll amounts then charged.dropCollateral else charged := by
  simp only [seize, bind_eq_ok] at h
  obtain ⟨scaled, hs, taken, ht, charged, hc, h⟩ := h
  cases h
  exact ⟨scaled, taken, charged, hs, ht, hc, rfl⟩

/-! ## The liquidation -/

variable {debtConfig collateralConfig : ReserveConfig} {terms : Terms} {outcome : Outcome}

theorem liquidateNow_eq_ok (h : a.liquidateNow debtConfig collateralConfig terms now = .ok outcome) :
    ∃ repaid seized, a.quote collateralConfig terms = .ok outcome.amounts ∧
      a.repay debtConfig.curve outcome.amounts.debtToCover now = .ok repaid ∧
      repaid.seize collateralConfig.curve outcome.amounts terms.receiveSupply = .ok seized ∧
      seized.settle now = .ok outcome.book := by
  simp only [liquidateNow, bind_eq_ok] at h
  obtain ⟨amounts, hq, repaid, hr, seized, hs, settled, ht, h⟩ := h
  cases h
  exact ⟨repaid, seized, hq, hr, hs, ht⟩

/-- collateral that is taken as supply leaves the stored reserve as it came -/
theorem liquidate_eq_ok (h : a.liquidate debtConfig collateralConfig terms now = .ok outcome) :
    a.Consistent ∧ terms.debtToCover ≠ 0 ∧ ∃ accrued result, a.accrue now = .ok accrued ∧
      accrued.liquidateNow debtConfig collateralConfig terms now = .ok result ∧
      outcome = if terms.receiveSupply
        then { result with book := { result.book with collateralReserve := a.collateralReserve } } else result := by
  simp only [liquidate, bind_eq_ok, require_eq_ok] at h
  obtain ⟨_, hconsistent, _, hne, accrued, ha, result, hr, h⟩ := h
  cases h
  exact ⟨hconsistent, hne, accrued, result, ha, hr, rfl⟩

end Book

end Lending.Liquidation
