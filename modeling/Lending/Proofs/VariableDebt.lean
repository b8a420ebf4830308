/-
How the scaled variable debt of a market follows that of a position.

A position gives up scaled debt by a subtraction that is refused below zero, its market by one that stops at zero. The
two agree as long as the market covers the position (`CoversDebt`), and then every action changes both by the same
amount (`Shifts`), whatever is rounded when an amount is scaled.

Results:
- `Account.perform_shifts`: on a covered position, an action on an account shifts both, and gives up exactly the scaled
  debt that a repayment or a swap out of variable debt passes on;
- `Liquidation.Book.liquidate_discharges`: so does a liquidation, of the borrower's debt and of no other.
-/
import Lending.Proofs.DebtFrames
import Lending.Proofs.Liquidation

namespace Lending

open UInt256

/-- the scaled variable debt -/
def Tally.scaledDebt : Tally :=
  ⟨fun r => r.scaledVariableDebt.toNat, fun p => p.scaledVariableDebt.toNat, fun _ _ => rfl⟩

theorem Position.accrue_scaledDebt {p q : Position} {r : Reserve} {now : Nat} (h : p.accrue r now = .ok q) :
    q.scaledVariableDebt = p.scaledVariableDebt := by
  obtain ⟨_, _, _, _, rfl, _⟩ := accrue_eq_ok h
  rfl

theorem Reserve.accrue_scaledDebt {r s : Reserve} {now : Nat} (h : r.accrue now = .ok s) :
    s.scaledVariableDebt = r.scaledVariableDebt := by
  obtain ⟨_, _, _, _, _, _, rfl, _⟩ := accrue_eq_ok h
  rfl

/-! ## Accounts -/

/-- the variable debt that an action gives up, of a position accrued to the moment, if it gives up any -/
def AccountAction.variableBurn? (position : Position) : AccountAction → Option UInt256
  | repay amount .variableRate => some (min amount position.variableDebt)
  | swapMode .variableRate => some position.variableDebt
  | repay _ .stableRate | swapMode .stableRate | supply _ | withdraw _ | borrow _ _ | rebalance | mintUnbacked _
  | backUnbacked _ _ | flashLoan _ => none

namespace Account

/-- the market owes what the position owes, and more -/
def CoversDebt (a : Account) : Prop := a.position.scaledVariableDebt.toNat ≤ a.reserve.scaledVariableDebt.toNat

/-- the market and the position both take on `taken` and give up `given` -/
structure Shifts (taken given : Nat) (a b : Account) : Prop where
  market : b.reserve.scaledVariableDebt.toNat + given = a.reserve.scaledVariableDebt.toNat + taken
  position : b.position.scaledVariableDebt.toNat + given = a.position.scaledVariableDebt.toNat + taken

/-- `given` is the scaled debt that stands for the debt given up, if any is -/
def Scales (a : Account) (given : Nat) : Option UInt256 → Prop
  | none => given = 0
  | some burn => ∃ scaled, a.position.scaledDebtPart burn a.reserve = .ok scaled ∧ scaled.toNat = given

variable {a b c : Account} {curve : RateCurve} {amount : UInt256} {now : Nat} {taken given taken' given' : Nat}

/-- the same scaled debts are a shift by nothing -/
theorem Shifts.of_eq (hr : b.reserve.scaledVariableDebt = a.reserve.scaledVariableDebt)
    (hp : b.position.scaledVariableDebt = a.position.scaledVariableDebt) : Shifts 0 0 a b := by
  constructor
  · rw [hr]
  · rw [hp]

theorem Shifts.refl (a : Account) : Shifts 0 0 a a := Shifts.of_eq rfl rfl

theorem Shifts.trans (h1 : Shifts taken given a b) (h2 : Shifts taken' given' b c) :
    Shifts (taken + taken') (given + given') a c := by
  obtain ⟨hm1, hp1⟩ := h1
  obtain ⟨hm2, hp2⟩ := h2
  exact ⟨by omega, by omega⟩

theorem Shifts.gap (h : Shifts taken given a b) : Tally.scaledDebt.gap b = Tally.scaledDebt.gap a := by
  obtain ⟨hm, hp⟩ := h
  simp only [Tally.gap, Tally.scaledDebt]
  omega

theorem SameDebts.shifts (h : a.SameDebts b) : Shifts 0 0 a b :=
  Shifts.of_eq h.market.scaledVariableDebt h.position.scaledVariableDebt

/-! ### Accruing and settling -/

theorem accrue_shifts (h : a.accrue now = .ok b) : Shifts 0 0 a b := by
  obtain ⟨_, _, hr, hp, rfl⟩ := accrue_eq_ok h
  exact Shifts.of_eq (Reserve.accrue_scaledDebt hr) (Position.accrue_scaledDebt hp)

theorem settle_shifts (h : a.settle now = .ok b) : Shifts 0 0 a b := by
  obtain ⟨_, hp, rfl⟩ := settle_eq_ok h
  exact Shifts.of_eq rfl (Position.accrue_scaledDebt hp)

/-! ### Debt -/

theorem takeOn_variable_shifts (h : a.takeOn amount now .variableRate = .ok b) : ∃ taken, Shifts taken 0 a b := by
  obtain ⟨scaled, _, _, _, _, rfl, hmarket, hposition⟩ := takeOn_variable_spec h
  exact ⟨scaled.toNat, hmarket, hposition⟩

theorem takeOn_stable_shifts (h : a.takeOn amount now .stableRate = .ok b) : Shifts 0 0 a b := by
  obtain ⟨_, _, _, _, rfl, _⟩ := takeOn_stable_spec h
  exact ⟨rfl, rfl⟩

theorem giveUp_stable_shifts (h : a.giveUp amount now .stableRate = .ok b) : Shifts 0 0 a b := by
  obtain ⟨_, _, _, _, _, rfl, _⟩ := giveUp_stable_spec h
  exact ⟨rfl, rfl⟩

/-- the position checks what the market does not: it has the scaled debt that is given up -/
theorem giveUp_variable_shifts (hc : a.CoversDebt) (h : a.giveUp amount now .variableRate = .ok b) :
    ∃ scaled, a.position.scaledDebtPart amount a.reserve = .ok scaled ∧ Shifts 0 scaled.toNat a b := by
  obtain ⟨scaled, hscaled, _, _, rfl, hheld⟩ := giveUp_variable_spec h
  refine ⟨scaled, hscaled, ?_, hheld⟩
  unfold CoversDebt at hc
  rw [toNat_monus]
  omega

/-- what only moves underlying shifts nothing -/
theorem refresh_shifts {added paid : UInt256} {r : Reserve} {p : Position}
    (hr : a.reserve.refresh curve added paid = .ok r) (hp : a.position.SameDebts p) : Shifts 0 0 a ⟨r, p⟩ :=
  (refresh_sameDebts hr hp).shifts

theorem borrow_shifts {mode : RateMode} (h : a.borrow curve amount mode now = .ok b) : ∃ taken, Shifts taken 0 a b := by
  obtain ⟨_, mid, ht, hr, hp⟩ := borrow_eq_ok h
  have hrest : Shifts 0 0 mid b := refresh_shifts hr (Position.receive_sameDebts hp)
  cases mode with
  | variableRate =>
    obtain ⟨taken, hs⟩ := takeOn_variable_shifts ht
    exact ⟨taken, hs.trans hrest⟩
  | stableRate => exact ⟨0, (takeOn_stable_shifts ht).trans hrest⟩

theorem repay_stable_shifts (h : a.repay curve amount .stableRate now = .ok b) : Shifts 0 0 a b := by
  obtain ⟨_, mid, hg, hr, hp⟩ := repay_eq_ok h
  exact (giveUp_stable_shifts hg).trans (refresh_shifts hr (Position.spend_sameDebts hp))

theorem repay_variable_shifts (hc : a.CoversDebt) (h : a.repay curve amount .variableRate now = .ok b) :
    ∃ scaled, a.position.scaledDebtPart (min amount a.position.variableDebt) a.reserve = .ok scaled ∧
      Shifts 0 scaled.toNat a b := by
  obtain ⟨_, mid, hg, hr, hp⟩ := repay_eq_ok h
  obtain ⟨scaled, hscaled, hs⟩ := giveUp_variable_shifts hc hg
  exact ⟨scaled, hscaled, hs.trans (refresh_shifts hr (Position.spend_sameDebts hp))⟩

theorem convert_stable_shifts {target : RateMode} (h : a.convert curve .stableRate target now = .ok b) :
    ∃ taken, Shifts taken 0 a b := by
  obtain ⟨_, mid, last, hg, ht, r, hr, rfl⟩ := convert_eq_ok h
  have hfirst := giveUp_stable_shifts hg
  have hrest : Shifts 0 0 last { last with reserve := r } := refresh_shifts hr (Position.SameDebts.refl _)
  cases target with
  | variableRate =>
    obtain ⟨taken, hs⟩ := takeOn_variable_shifts ht
    exact ⟨_, (hfirst.trans hs).trans hrest⟩
  | stableRate => exact ⟨_, (hfirst.trans (takeOn_stable_shifts ht)).trans hrest⟩

theorem convert_variable_shifts (hc : a.CoversDebt) (h : a.convert curve .variableRate .stableRate now = .ok b) :
    ∃ scaled, a.position.scaledDebtPart a.position.variableDebt a.reserve = .ok scaled ∧
      Shifts 0 scaled.toNat a b := by
  obtain ⟨_, mid, last, hg, ht, r, hr, rfl⟩ := convert_eq_ok h
  obtain ⟨scaled, hscaled, hs⟩ := giveUp_variable_shifts hc hg
  have hrest : Shifts 0 0 last { last with reserve := r } := refresh_shifts hr (Position.SameDebts.refl _)
  exact ⟨scaled, hscaled, (hs.trans (takeOn_stable_shifts ht)).trans hrest⟩

/-! ### All nine actions -/

variable {pool : PoolConfig} {config : ReserveConfig} {action : AccountAction}

/-- an action takes variable debt on or gives it up, but never both -/
theorem change_shifts (hc : a.CoversDebt) (h : action.change pool config now a = .ok b) :
    ∃ taken given, Shifts taken given a b ∧ a.Scales given (action.variableBurn? a.position) ∧
      (taken = 0 ∨ action.variableBurn? a.position = none) := by
  cases action with
  | supply amount => exact ⟨0, 0, (supply_sameDebts h).shifts, rfl, .inl rfl⟩
  | withdraw amount => exact ⟨0, 0, (withdraw_sameDebts h).shifts, rfl, .inl rfl⟩
  | borrow amount mode =>
    obtain ⟨taken, hs⟩ := borrow_shifts h
    exact ⟨taken, 0, hs, rfl, .inr rfl⟩
  | repay amount mode =>
    cases mode with
    | variableRate =>
      obtain ⟨scaled, hscaled, hs⟩ := repay_variable_shifts hc h
      exact ⟨0, scaled.toNat, hs, ⟨scaled, hscaled, rfl⟩, .inl rfl⟩
    | stableRate => exact ⟨0, 0, repay_stable_shifts h, rfl, .inl rfl⟩
  | swapMode mode =>
    cases mode with
    | variableRate =>
      obtain ⟨scaled, hscaled, hs⟩ := convert_variable_shifts hc h
      exact ⟨0, scaled.toNat, hs, ⟨scaled, hscaled, rfl⟩, .inl rfl⟩
    | stableRate =>
      obtain ⟨taken, hs⟩ := convert_stable_shifts h
      exact ⟨taken, 0, hs, rfl, .inr rfl⟩
  | rebalance =>
    obtain ⟨taken, hs⟩ := convert_stable_shifts h
    exact ⟨taken, 0, hs, rfl, .inr rfl⟩
  | mintUnbacked amount => exact ⟨0, 0, (mintUnbacked_sameDebts h).shifts, rfl, .inl rfl⟩
  | backUnbacked amount fee => exact ⟨0, 0, (backUnbacked_sameDebts h).shifts, rfl, .inl rfl⟩
  | flashLoan amount => exact ⟨0, 0, (flashLoan_sameDebts h).shifts, rfl, .inl rfl⟩

/-- a position that is covered stays covered while nothing is taken on or given up -/
theorem CoversDebt.of_shifts (hc : a.CoversDebt) (hs : Shifts 0 0 a b) : b.CoversDebt := by
  have := hs.market
  have := hs.position
  unfold CoversDebt at hc ⊢
  omega

/-- **An action on an account shifts its market and its position alike, and gives up what it passes on.** -/
theorem perform_shifts (hc : a.CoversDebt) (h : a.perform pool config now action = .ok b) :
    ∃ accrued, a.accrue now = .ok accrued ∧ ∃ taken given, Shifts taken given a b ∧ Shifts taken given accrued b ∧
      accrued.Scales given (action.variableBurn? accrued.position) ∧
      (taken = 0 ∨ action.variableBurn? accrued.position = none) := by
  obtain ⟨_, accrued, changed, ha, hchange, hs⟩ := perform_eq_ok h
  have haccrued := accrue_shifts ha
  obtain ⟨taken, given, hshifts, hscales, hone⟩ := change_shifts (hc.of_shifts haccrued) hchange
  have hresult : Shifts taken given accrued b := hshifts.trans (settle_shifts hs)
  have hall := haccrued.trans hresult
  rw [Nat.zero_add, Nat.zero_add] at hall
  exact ⟨accrued, ha, taken, given, hall, hresult, hscales, hone⟩

end Account

/-! ## Transfers -/

namespace Transfer

variable {a b : Transfer} {r : Reserve} {amount : UInt256} {now : Nat}

theorem accrue_scaledDebt (h : a.accrue r now = .ok b) :
    b.sender.scaledVariableDebt = a.sender.scaledVariableDebt ∧
      b.recipient.scaledVariableDebt = a.recipient.scaledVariableDebt := by
  obtain ⟨_, _, hs, hp, rfl⟩ := accrue_eq_ok h
  exact ⟨Position.accrue_scaledDebt hs, Position.accrue_scaledDebt hp⟩

/-- passing supply on between two users leaves the variable debt of both alone -/
theorem perform_scaledDebt (hne : a.sender.owner ≠ a.recipient.owner) (h : a.perform r amount now = .ok b) :
    b.sender.scaledVariableDebt = a.sender.scaledVariableDebt ∧
      b.recipient.scaledVariableDebt = a.recipient.scaledVariableDebt := by
  obtain ⟨_, reserve, accrued, _, ha, _, h⟩ := perform_eq_ok h
  rw [if_neg (mt (accrue_moves ha).owners_iff.1 hne)] at h
  obtain ⟨moved, hm, h⟩ := h
  obtain ⟨hs, hp⟩ := accrue_scaledDebt ha
  obtain ⟨_, _, _, _, _, _, rfl, _⟩ := move_spec hm
  obtain ⟨hs', hp'⟩ := accrue_scaledDebt h
  exact ⟨hs'.trans hs, hp'.trans hp⟩

end Transfer

/-! ## Liquidations -/

namespace Liquidation

/-- the variable debt that covering a debt gives up, of a position accrued to the moment, if it gives up any -/
def variableBurn? (covered : UInt256) (position : Position) : Option UInt256 :=
  if covered ≤ position.variableDebt then some covered
  else if position.variableDebt = 0 then none
  else some position.variableDebt

theorem coverDebt_shifts {a b : Account} {covered : UInt256} {now : Nat} (hc : a.CoversDebt)
    (h : coverDebt covered now a = .ok b) :
    ∃ given, Account.Shifts 0 given a b ∧ a.Scales given (variableBurn? covered a.position) := by
  unfold variableBurn?
  rcases coverDebt_cases h with ⟨hall, h⟩ | ⟨hmore, cleared, hcleared, h⟩
  · obtain ⟨scaled, hscaled, hs⟩ := Account.giveUp_variable_shifts hc h
    rw [if_pos hall]
    exact ⟨scaled.toNat, hs, scaled, hscaled, rfl⟩
  · have hrest := Account.giveUp_stable_shifts h
    rw [if_neg hmore]
    rcases clearVariableDebt_cases hcleared with ⟨hzero, rfl⟩ | ⟨hne, hcleared⟩
    · rw [if_pos hzero]
      exact ⟨0, hrest, rfl⟩
    · obtain ⟨scaled, hscaled, hs⟩ := Account.giveUp_variable_shifts hc hcleared
      rw [if_neg hne]
      exact ⟨scaled.toNat, hs.trans hrest, scaled, hscaled, rfl⟩

namespace Book

/-- the account that a liquidation relieves of debt -/
def debtAccount (a : Book) : Account := ⟨a.debtReserve, a.parties.borrowerDebt⟩

/-- the debt market and the borrower both give up `given`, and nobody else takes on or gives up any variable debt -/
structure Discharges (given : Nat) (a b : Book) : Prop where
  debt : Account.Shifts 0 given a.debtAccount b.debtAccount
  liquidatorDebt : b.parties.liquidatorDebt.scaledVariableDebt = a.parties.liquidatorDebt.scaledVariableDebt
  collateralReserve : b.collateralReserve.scaledVariableDebt = a.collateralReserve.scaledVariableDebt
  borrowerCollateral : b.parties.borrowerCollateral.scaledVariableDebt = a.parties.borrowerCollateral.scaledVariableDebt
  liquidatorCollateral :
    b.parties.liquidatorCollateral.scaledVariableDebt = a.parties.liquidatorCollateral.scaledVariableDebt
  treasury : b.parties.treasury.scaledVariableDebt = a.parties.treasury.scaledVariableDebt

variable {a b c : Book} {curve : RateCurve} {amount covered scaled : UInt256} {now given given' : Nat}

theorem Discharges.trans (h1 : Discharges given a b) (h2 : Discharges given' b c) :
    Discharges (given + given') a c where
  debt := h1.debt.trans h2.debt
  liquidatorDebt := h2.liquidatorDebt.trans h1.liquidatorDebt
  collateralReserve := h2.collateralReserve.trans h1.collateralReserve
  borrowerCollateral := h2.borrowerCollateral.trans h1.borrowerCollateral
  liquidatorCollateral := h2.liquidatorCollateral.trans h1.liquidatorCollateral
  treasury := h2.treasury.trans h1.treasury

theorem Discharges.debtGap (h : Discharges given a b) : b.debtGap .scaledDebt = a.debtGap .scaledDebt := by
  have hgap := h.debt.gap
  simp only [Tally.gap, debtAccount] at hgap
  unfold Book.debtGap
  rw [hgap]
  simp only [Tally.scaledDebt, h.liquidatorDebt]

theorem Discharges.collateralGap (h : Discharges given a b) :
    b.collateralGap .scaledDebt = a.collateralGap .scaledDebt := by
  simp only [Book.collateralGap, Tally.scaledDebt, h.collateralReserve, h.borrowerCollateral, h.liquidatorCollateral,
    h.treasury]

/-- what owes nobody anything discharges nothing -/
theorem SameDebts.discharges (h : a.SameDebts b) : Discharges 0 a b where
  debt := Account.Shifts.of_eq h.debtReserve.scaledVariableDebt h.parties.borrowerDebt.scaledVariableDebt
  liquidatorDebt := h.parties.liquidatorDebt.scaledVariableDebt
  collateralReserve := h.collateralReserve.scaledVariableDebt
  borrowerCollateral := h.parties.borrowerCollateral.scaledVariableDebt
  liquidatorCollateral := h.parties.liquidatorCollateral.scaledVariableDebt
  treasury := h.parties.treasury.scaledVariableDebt

/-! ### Phases -/

theorem accrueReserves_discharges (h : a.accrueReserves now = .ok b) : Discharges 0 a b := by
  obtain ⟨_, _, hd, hc, rfl⟩ := accrueReserves_eq_ok h
  exact ⟨Account.Shifts.of_eq (Reserve.accrue_scaledDebt hd) rfl, rfl, Reserve.accrue_scaledDebt hc, rfl, rfl, rfl⟩

theorem settle_discharges (h : a.settle now = .ok b) : Discharges 0 a b := by
  obtain ⟨_, hs, rfl⟩ := settle_eq_ok h
  exact ⟨Account.Shifts.of_eq rfl (Position.accrue_scaledDebt hs.borrowerDebt),
    Position.accrue_scaledDebt hs.liquidatorDebt, rfl, Position.accrue_scaledDebt hs.borrowerCollateral,
    Position.accrue_scaledDebt hs.liquidatorCollateral, Position.accrue_scaledDebt hs.treasury⟩

theorem accrue_discharges (h : a.accrue now = .ok b) : Discharges 0 a b := by
  obtain ⟨_, ha, h⟩ := accrue_eq_ok h
  exact (accrueReserves_discharges ha).trans (settle_discharges h)

theorem repay_discharges (hc : a.debtAccount.CoversDebt) (h : a.repay curve covered now = .ok b) :
    ∃ given, Discharges given a b ∧ a.debtAccount.Scales given (variableBurn? covered a.parties.borrowerDebt) := by
  obtain ⟨mid, r, p, hcover, hr, hp, rfl⟩ := repay_spec h
  obtain ⟨given, hs, hscales⟩ := coverDebt_shifts hc hcover
  have hrest : Account.Shifts 0 0 mid ⟨r, mid.position⟩ := Account.refresh_shifts hr (Position.SameDebts.refl _)
  exact ⟨given, ⟨hs.trans hrest, (Position.spend_sameDebts hp).scaledVariableDebt, rfl, rfl, rfl, rfl⟩, hscales⟩

/-! ### The liquidation -/

variable {debtConfig collateralConfig : ReserveConfig} {terms : Terms} {outcome : Outcome}

/-- **A liquidation burns in the debt market exactly what the borrower gives up, and no other variable debt.** -/
theorem liquidate_discharges (hc : a.debtAccount.CoversDebt)
    (h : a.liquidate debtConfig collateralConfig terms now = .ok outcome) :
    ∃ accrued amounts, a.accrue now = .ok accrued ∧ accrued.quote collateralConfig terms = .ok amounts ∧
      ∃ given, Discharges given a outcome.book ∧ Account.Shifts 0 given accrued.debtAccount outcome.book.debtAccount ∧
        accrued.debtAccount.Scales given (variableBurn? amounts.debtToCover accrued.parties.borrowerDebt) := by
  obtain ⟨_, _, accrued, result, ha, hr, rfl⟩ := liquidate_eq_ok h
  have haccrued := accrue_discharges ha
  obtain ⟨repaid, seized, hq, hrepaid, hseized, hsettled⟩ := liquidateNow_eq_ok hr
  obtain ⟨given, hd, hscales⟩ := repay_discharges (hc.of_shifts haccrued.debt) hrepaid
  have hresult : Discharges given accrued result.book :=
    (hd.trans (seize_sameDebts hseized).discharges).trans (settle_discharges hsettled)
  have hall := haccrued.trans hresult
  rw [Nat.zero_add] at hall
  refine ⟨accrued, result.amounts, ha, hq, given, ?_⟩
  split
  · -- the collateral reserve goes back as it came
    exact ⟨{ hall with collateralReserve := rfl }, hresult.debt, hscales⟩
  · exact ⟨hall, hresult.debt, hscales⟩

end Book

end Liquidation

end Lending
