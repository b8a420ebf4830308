/-
What a liquidation does to the borrower, from end to end.

The positions and markets are compared as they are accrued to the moment and as the liquidation leaves them. The debt
falls by what is covered, the variable debt first, and the collateral by what is seized, each up to the rounding of one
index: an amount is scaled down with half a scaled unit of error, and the balance is rounded before and after. What the
borrower loses in scaled supply is exactly what the treasury and the liquidator gain.

Results:
- `balance_falls`: a scaled balance that gives up a scaled amount falls by the amount, up to rounding;
- `coverDebt_repaid`: what covering a debt does to it;
- `seize_seized`: who gets the borrower's scaled supply;
- `liquidate_settles`: both, for every liquidation that goes through.
-/
import Lending.Proofs.LiquidationRefusals
import Lending.Proofs.RoundingError
import Lending.Proofs.Run
import Lending.Proofs.StableDebt

namespace Lending

open UInt256

/-! ## Balances that fall -/

section Balances

variable {one index before after part amount other : Nat} {error : ℤ}

/-- A balance that gives up `part` of its scaled form falls by the worth of it, up to half a unit before and after. -/
theorem balance_falls (ho : 0 < one) (h : after + part = before)
    (hpart : |2 * (part * index : ℤ) - 2 * (amount * one)| ≤ error) :
    2 * one * |(halfUp (before * index) one : ℤ) - halfUp (after * index) one - amount| ≤ error + 2 * one := by
  have hbefore := abs_halfUp_sub_le (before * index) ho
  have hafter := abs_halfUp_sub_le (after * index) ho
  subst h
  generalize (halfUp ((after + part) * index) one : ℤ) = b at *
  generalize (halfUp (after * index) one : ℤ) = a at *
  have hsplit : 2 * one * (b - a - amount) =
      2 * (b * one) - 2 * ((after + part) * index : Nat) - (2 * (a * one) - 2 * (after * index : Nat)) +
        (2 * (part * index) - 2 * (amount * one)) := by
    push_cast
    ring
  have hnonneg : (0 : ℤ) ≤ 2 * one := by omega
  calc 2 * one * |b - a - amount| = |2 * one * (b - a - amount)| := by rw [abs_mul, abs_of_nonneg hnonneg]
    _ ≤ one + one + error := by
      rw [hsplit]
      exact (abs_add_le _ _).trans (add_le_add ((abs_sub _ _).trans (add_le_add hbefore hafter)) hpart)
    _ = error + 2 * one := by ring

/-- an amount that is scaled down before it is given up adds half a scaled unit -/
theorem balance_falls_scaled (ho : 0 < one) (hi : 0 < index) (h : after + halfUp (amount * one) index = before) :
    2 * one * |(halfUp (before * index) one : ℤ) - halfUp (after * index) one - amount| ≤ index + 2 * one :=
  balance_falls ho h (by exact_mod_cast abs_halfUp_sub_le (amount * one) hi)

/-- two amounts that are scaled down apart add a scaled unit -/
theorem balance_falls_twice (ho : 0 < one) (hi : 0 < index)
    (h : after + (halfUp (amount * one) index + halfUp (other * one) index) = before) :
    one * |(halfUp (before * index) one : ℤ) - halfUp (after * index) one - (amount + other : Nat)| ≤ index + one := by
  have hamount := abs_halfUp_sub_le (amount * one) hi
  have hother := abs_halfUp_sub_le (other * one) hi
  have hparts : |2 * (((halfUp (amount * one) index + halfUp (other * one) index : Nat) : ℤ) * index) -
      2 * ((amount + other : Nat) * one)| ≤ 2 * index := by
    push_cast at *
    calc |2 * ((halfUp (amount * one) index + halfUp (other * one) index : ℤ) * index) - 2 * ((amount + other) * one)|
        = |2 * (halfUp (amount * one) index * index : ℤ) - 2 * (amount * one) +
            (2 * (halfUp (other * one) index * index) - 2 * (other * one))| := congrArg _ (by ring)
      _ ≤ index + index := (abs_add_le _ _).trans (add_le_add hamount hother)
      _ = 2 * index := by ring
  have hboth := balance_falls ho h hparts
  linarith

end Balances

/-- `p` stands for its balances at the indices of `r` -/
structure Position.AccruedTo (r : Reserve) (p : Position) : Prop where
  supply : p.scaledSupply.rayMul r.liquidityIndex = .ok p.supply
  variableDebt : p.scaledVariableDebt.rayMul r.debtIndex = .ok p.variableDebt

theorem Position.accrue_accruedTo {p q : Position} {r : Reserve} {now : Nat} (h : p.accrue r now = .ok q) :
    q.AccruedTo r := by
  obtain ⟨_, _, _, _, rfl, hsupply, hvariable, _⟩ := Position.accrue_eq_ok h
  exact ⟨hsupply, hvariable⟩

namespace Liquidation

/-! ## The debt -/

/-- the debt of `p` has fallen by `covered` to that of `q`: variable debt that is enough falls alone, and one that is
not falls to nothing while the stable debt falls by the rest -/
structure Repaid (r : Reserve) (covered : UInt256) (p q : Position) : Prop where
  principal : covered ≤ p.variableDebt → q.principalStableDebt = p.principalStableDebt
  falls : covered ≤ p.variableDebt →
    2 * ray * |(p.variableDebt.toNat : ℤ) - q.variableDebt.toNat - covered.toNat| ≤ r.debtIndex.toNat + 2 * ray
  clears : covered = p.variableDebt → q.variableDebt = 0
  exhausts : ¬ covered ≤ p.variableDebt → q.scaledVariableDebt = 0
  rest : ¬ covered ≤ p.variableDebt →
    q.stableDebt.toNat + (covered.toNat - p.variableDebt.toNat) = p.stableDebt.toNat

section Debt

variable {a b : Account} {r : Reserve} {q : Position} {covered : UInt256} {now : Nat}

/-- variable debt that is given up falls by the amount, and the whole of it to nothing -/
theorem giveUp_variable_falls (ha : a.position.AccruedTo a.reserve) (h : a.giveUp covered now .variableRate = .ok b)
    (hr : r.debtIndex = a.reserve.debtIndex) (hq : b.position.accrue r now = .ok q) :
    2 * ray * |(a.position.variableDebt.toNat : ℤ) - q.variableDebt.toNat - covered.toNat| ≤
        a.reserve.debtIndex.toNat + 2 * ray ∧
      (covered = a.position.variableDebt → q.variableDebt = 0) := by
  obtain ⟨scaled, hs, _, held, rfl, hheld⟩ := Account.giveUp_variable_spec h
  have hdebt := (Position.accrue_accruedTo hq).variableDebt
  obtain ⟨_, _, _, _, rfl, _⟩ := Position.accrue_eq_ok hq
  dsimp only at hdebt ⊢
  rw [hr] at hdebt
  unfold Position.scaledDebtPart at hs
  split at hs
  · next hwhole =>
    cases hs
    obtain rfl := eq_zero_of_add_eq hheld
    rw [zero_rayMul] at hdebt
    cases hdebt
    subst hwhole
    refine ⟨?_, fun _ => rfl⟩
    simp
    omega
  · next hpart =>
    refine ⟨?_, fun hwhole => absurd hwhole hpart⟩
    rw [toNat_rayMul ha.variableDebt, toNat_rayMul hdebt]
    refine balance_falls_scaled ray_pos (Nat.pos_of_ne_zero (divHalfUp_eq_ok.1 hs).1) ?_
    rw [← toNat_rayDiv hs]
    exact hheld

/-- the variable debt of a position that owes nothing at an index of at least one is nothing -/
theorem scaledDebt_zero (hindex : ray ≤ a.reserve.debtIndex.toNat) (ha : a.position.AccruedTo a.reserve)
    (h0 : a.position.variableDebt = 0) : a.position.scaledVariableDebt = 0 := by
  have hle := le_of_rayMul hindex ha.variableDebt
  rw [eq_zero_iff] at h0 ⊢
  omega

theorem clearVariableDebt_scaled (hindex : ray ≤ a.reserve.debtIndex.toNat) (ha : a.position.AccruedTo a.reserve)
    (h : clearVariableDebt now a = .ok b) : b.position.scaledVariableDebt = 0 := by
  rcases clearVariableDebt_cases h with ⟨h0, rfl⟩ | ⟨_, h⟩
  · exact scaledDebt_zero hindex ha h0
  · exact Account.giveUp_variable_whole h

/-- stable debt that is given up falls by the amount, and what is left of it carries no interest yet -/
theorem giveUp_stable_falls (h : a.giveUp covered now .stableRate = .ok b) (hq : b.position.accrue r now = .ok q) :
    q.stableDebt.toNat + covered.toNat = a.position.stableDebt.toNat ∧
      q.scaledVariableDebt = a.position.scaledVariableDebt := by
  obtain ⟨_, _, held, _, _, hb, hheld, htime⟩ := Account.giveUp_stable_spec h
  have hfresh : b.position.Fresh now := by
    rw [hb]
    exact ⟨rfl, fun hne => (by rwa [if_neg hne] at htime : _ ∧ _).2⟩
  have hsame := (hfresh.accrue hq).2
  obtain ⟨_, _, _, _, rfl, _⟩ := Position.accrue_eq_ok hq
  rw [hsame, hb]
  exact ⟨hheld, rfl⟩

/-- **Covering a debt lets it fall by the amount, the variable debt first.** -/
theorem coverDebt_repaid (hindex : ray ≤ a.reserve.debtIndex.toNat) (ha : a.position.AccruedTo a.reserve)
    (h : coverDebt covered now a = .ok b) (hr : r.debtIndex = a.reserve.debtIndex)
    (hq : b.position.accrue r now = .ok q) : Repaid a.reserve covered a.position q := by
  rcases coverDebt_cases h with ⟨hall, h⟩ | ⟨hmore, cleared, hc, h⟩
  · obtain ⟨hfalls, hclears⟩ := giveUp_variable_falls ha h hr hq
    refine ⟨fun _ => ?_, fun _ => hfalls, hclears, fun hmore => absurd hall hmore, fun hmore => absurd hall hmore⟩
    obtain ⟨_, _, _, _, rfl, _⟩ := Account.giveUp_variable_spec h
    obtain ⟨_, _, _, _, rfl, _⟩ := Position.accrue_eq_ok hq
    rfl
  · obtain ⟨hfalls, hscaled⟩ := giveUp_stable_falls h hq
    rw [(clearVariableDebt_same hc).2.1, toNat_monus] at hfalls
    refine ⟨fun hall => absurd hall hmore, fun hall => absurd hall hmore, fun he => absurd ?_ hmore, fun _ => ?_,
      fun _ => hfalls⟩
    · exact le_of_eq (congrArg toNat he)
    · exact hscaled.trans (clearVariableDebt_scaled hindex ha hc)

end Debt

/-! ## The collateral -/

/-- what the borrower of `a` loses to that of `b` when `amounts` are seized -/
structure Seized (receiveSupply : Bool) (amounts : Amounts) (a b : Book) : Prop where
  /-- the scaled supply goes to the treasury and to the liquidator, or out of its market -/
  shares : (a.parties.borrowerCollateral.scaledSupply.toNat : ℤ) - b.parties.borrowerCollateral.scaledSupply.toNat =
    (b.parties.treasury.scaledSupply.toNat - a.parties.treasury.scaledSupply.toNat) +
      if receiveSupply then
        (b.parties.liquidatorCollateral.scaledSupply.toNat - a.parties.liquidatorCollateral.scaledSupply.toNat : ℤ)
      else a.collateralReserve.scaledSupply.toNat - b.collateralReserve.scaledSupply.toNat
  empties : a.SeizesAll amounts →
    b.parties.borrowerCollateral.scaledSupply = 0 ∧ b.parties.borrowerCollateral.collateral = false
  falls : ¬ a.SeizesAll amounts →
    ray * |(a.parties.borrowerCollateral.supply.toNat : ℤ) - b.parties.borrowerCollateral.supply.toNat -
      amounts.totalCollateral.toNat| ≤ a.collateralReserve.liquidityIndex.toNat + ray

section Collateral

variable {a b c : Book} {curve : RateCurve} {amount scaled : UInt256} {amounts : Amounts} {receiveSupply : Bool}
  {now : Nat}

/-- the scaled seizure is the whole scaled balance, or the two parts scaled apart -/
theorem scaledSeizure_cases {seizure : ScaledSeizure} (h : a.scaledSeizure amounts = .ok seizure) :
    (a.SeizesAll amounts ∧ seizure.toLiquidator.toNat + seizure.toTreasury.toNat =
        a.parties.borrowerCollateral.scaledSupply.toNat) ∨
      (¬ a.SeizesAll amounts ∧
        amounts.liquidatorCollateral.rayDiv a.collateralReserve.liquidityIndex = .ok seizure.toLiquidator ∧
        amounts.protocolFee.rayDiv a.collateralReserve.liquidityIndex = .ok seizure.toTreasury) := by
  simp only [Book.scaledSeizure, bind_eq_ok] at h
  obtain ⟨toTreasury, ht, toLiquidator, hl, h⟩ := h
  cases h
  unfold Book.scaledForLiquidator at hl
  split at hl
  · next hall =>
    rw [sub_eq_ok] at hl
    exact .inl ⟨hall, by dsimp only; omega⟩
  · next hpart => exact .inr ⟨hpart, hl, ht⟩

theorem chargeFee_scaledSupply (h : a.chargeFee scaled = .ok b) :
    b.parties.borrowerCollateral.scaledSupply.toNat + scaled.toNat =
      a.parties.borrowerCollateral.scaledSupply.toNat := by
  rcases Book.chargeFee_cases h with ⟨rfl, rfl⟩ | ⟨_, _, hp, _, rfl⟩
  · rfl
  · obtain ⟨_, _, rfl, hremoved, _⟩ := Position.removeSupply_spec hp
    exact hremoved

/-- the borrower loses both parts of the seizure, and a balance seized whole is no collateral any more -/
theorem seize_borrower (h : a.seize curve amounts receiveSupply = .ok b) :
    ∃ seizure, a.scaledSeizure amounts = .ok seizure ∧
      b.parties.borrowerCollateral.scaledSupply.toNat + (seizure.toLiquidator.toNat + seizure.toTreasury.toNat) =
        a.parties.borrowerCollateral.scaledSupply.toNat ∧
      (a.SeizesAll amounts → b.parties.borrowerCollateral.collateral = false) := by
  obtain ⟨seizure, taken, charged, hs, ht, hc, rfl⟩ := Book.seize_spec h
  have htaken := Book.take_scaledSupply ht
  have hcharged := chargeFee_scaledSupply hc
  refine ⟨seizure, hs, ?_⟩
  split
  · exact ⟨by simp only [Book.dropCollateral]; omega, fun _ => rfl⟩
  · next hpart => exact ⟨by omega, fun hall => absurd hall hpart⟩

theorem seize_empties (h : a.seize curve amounts receiveSupply = .ok b) (hall : a.SeizesAll amounts) :
    b.parties.borrowerCollateral.scaledSupply = 0 := by
  obtain ⟨seizure, hseizure, hlost, _⟩ := seize_borrower h
  rcases scaledSeizure_cases hseizure with ⟨_, hwhole⟩ | ⟨hpart, _⟩
  · rw [eq_zero_iff]
    omega
  · exact absurd hall hpart

theorem take_market (h : a.take curve amount scaled receiveSupply = .ok b) :
    b.collateralReserve.liquidityIndex = a.collateralReserve.liquidityIndex ∧
      (receiveSupply = false →
        b.parties.liquidatorCollateral.scaledSupply = a.parties.liquidatorCollateral.scaledSupply) := by
  cases receiveSupply with
  | true =>
    obtain ⟨_, _, _, _, rfl⟩ := Book.seizeSupply_spec h
    exact ⟨rfl, nofun⟩
  | false =>
    obtain ⟨_, _, _, _, hr, _, hq, _, rfl, _⟩ := Book.seizeUnderlying_spec h
    obtain ⟨_, _, _, _, rfl, _⟩ := Reserve.refresh_spec hr
    obtain ⟨_, rfl, _⟩ := Position.receive_spec hq
    exact ⟨rfl, fun _ => rfl⟩

/-- seizing leaves the index alone, and underlying that is taken is no supply of the liquidator -/
theorem seize_market (h : a.seize curve amounts receiveSupply = .ok b) :
    b.collateralReserve.liquidityIndex = a.collateralReserve.liquidityIndex ∧
      (receiveSupply = false →
        b.parties.liquidatorCollateral.scaledSupply = a.parties.liquidatorCollateral.scaledSupply) := by
  obtain ⟨_, taken, charged, _, ht, hc, rfl⟩ := Book.seize_spec h
  have htaken := take_market ht
  have hcharged : charged.collateralReserve = taken.collateralReserve ∧
      charged.parties.liquidatorCollateral = taken.parties.liquidatorCollateral := by
    rcases Book.chargeFee_cases hc with ⟨_, rfl⟩ | ⟨_, _, _, _, rfl⟩
    · exact ⟨rfl, rfl⟩
    · exact ⟨rfl, rfl⟩
  rw [← hcharged.1, ← hcharged.2] at htaken
  split
  · exact htaken
  · exact htaken

/-- **The borrower loses what is seized, and what the borrower loses goes to the treasury and the liquidator.** -/
theorem seize_seized (ha : a.parties.borrowerCollateral.AccruedTo a.collateralReserve)
    (hparts : amounts.liquidatorCollateral.toNat + amounts.protocolFee.toNat = amounts.totalCollateral.toNat)
    (h : a.seize curve amounts receiveSupply = .ok b) (hc : b.settle now = .ok c) :
    Seized receiveSupply amounts a c := by
  have hgap := ((Book.seize_moves h).trans (Book.settle_moves hc)).collateralSupply
  obtain ⟨seizure, hseizure, hlost, hdropped⟩ := seize_borrower h
  obtain ⟨hindex, hliquidator⟩ := seize_market h
  have hempties := seize_empties h
  have hreserve : receiveSupply = true → b.collateralReserve = a.collateralReserve := by
    rintro rfl
    exact Book.seize_collateralReserve h
  obtain ⟨⟨bd, bc, ld, lc, t⟩, hsettles, rfl⟩ := Book.settle_eq_ok hc
  have hsupply := (Position.accrue_accruedTo hsettles.borrowerCollateral).supply
  obtain ⟨_, _, _, _, hbc, _⟩ := Position.accrue_eq_ok hsettles.borrowerCollateral
  obtain ⟨_, _, _, _, hlc, _⟩ := Position.accrue_eq_ok hsettles.liquidatorCollateral
  dsimp only at hbc hlc hsupply
  subst hbc hlc
  refine ⟨?_, fun hall => ⟨hempties hall, hdropped hall⟩, fun hpart => ?_⟩
  · simp only [Tally.supply, Book.collateralGap] at hgap ⊢
    split
    · next hs =>
      rw [hreserve hs] at hgap
      omega
    · next hs =>
      rw [hliquidator (Bool.eq_false_iff.2 hs)] at hgap
      omega
  · obtain ⟨_, hl, ht⟩ := (scaledSeizure_cases hseizure).resolve_left fun h => hpart h.1
    dsimp only at hsupply ⊢
    rw [hindex] at hsupply
    rw [toNat_rayMul ha.supply, toNat_rayMul hsupply, ← hparts]
    refine balance_falls_twice ray_pos (Nat.pos_of_ne_zero (divHalfUp_eq_ok.1 ht).1) ?_
    rw [← toNat_rayDiv hl, ← toNat_rayDiv ht]
    exact hlost

end Collateral

/-! ## The liquidation -/

/-- what a liquidation on `terms` has done to the accrued book `a` -/
structure Settles (terms : Terms) (a : Book) (o : Outcome) : Prop where
  covers : 0 < o.amounts.debtToCover.toNat
  covered_le : o.amounts.debtToCover.toNat ≤
    a.parties.borrowerDebt.variableDebt.toNat + a.parties.borrowerDebt.stableDebt.toNat
  offered : o.amounts.debtToCover ≤ terms.debtToCover
  repaid : Repaid a.debtReserve o.amounts.debtToCover a.parties.borrowerDebt o.book.parties.borrowerDebt
  seized : Seized terms.receiveSupply o.amounts a o.book

section Liquidation

variable {book a b : Book} {o : Outcome} {debtConfig collateralConfig : ReserveConfig} {terms : Terms}
  {curve : RateCurve} {now : Nat}

theorem accrue_accruedTo (h : book.accrue now = .ok a) :
    a.parties.borrowerDebt.AccruedTo a.debtReserve ∧ a.parties.borrowerCollateral.AccruedTo a.collateralReserve := by
  obtain ⟨_, _, h⟩ := Book.accrue_eq_ok h
  obtain ⟨_, hsettles, rfl⟩ := Book.settle_eq_ok h
  exact ⟨Position.accrue_accruedTo hsettles.borrowerDebt, Position.accrue_accruedTo hsettles.borrowerCollateral⟩

theorem giveUp_debtIndex {a b : Account} {amount : UInt256} {mode : RateMode} (h : a.giveUp amount now mode = .ok b) :
    b.reserve.debtIndex = a.reserve.debtIndex := by
  cases mode with
  | variableRate =>
    obtain ⟨_, _, _, _, rfl, _⟩ := Account.giveUp_variable_spec h
    rfl
  | stableRate =>
    obtain ⟨_, _, _, _, _, rfl, _⟩ := Account.giveUp_stable_spec h
    rfl

theorem coverDebt_debtIndex {a b : Account} {covered : UInt256} (h : coverDebt covered now a = .ok b) :
    b.reserve.debtIndex = a.reserve.debtIndex := by
  rcases coverDebt_cases h with ⟨_, h⟩ | ⟨_, cleared, hc, h⟩
  · exact giveUp_debtIndex h
  · rw [giveUp_debtIndex h]
    rcases clearVariableDebt_cases hc with ⟨_, rfl⟩ | ⟨_, hc⟩
    · rfl
    · exact giveUp_debtIndex hc

theorem liquidateNow_repaid (hindex : ray ≤ a.debtReserve.debtIndex.toNat)
    (ha : a.parties.borrowerDebt.AccruedTo a.debtReserve)
    (h : a.liquidateNow debtConfig collateralConfig terms now = .ok o) :
    Repaid a.debtReserve o.amounts.debtToCover a.parties.borrowerDebt o.book.parties.borrowerDebt := by
  obtain ⟨repaid, seized, _, hrepaid, hseized, hsettled⟩ := Book.liquidateNow_eq_ok h
  obtain ⟨given, r, _, hcovered, hr, _, rfl⟩ := Book.repay_spec hrepaid
  obtain ⟨hreserve, hposition⟩ := Book.seize_debt hseized
  obtain ⟨_, hsettles, ho⟩ := Book.settle_eq_ok hsettled
  have hq := hsettles.borrowerDebt
  rw [hreserve, hposition] at hq
  have hkept : r.debtIndex = a.debtReserve.debtIndex := by
    obtain ⟨_, _, _, _, rfl, _⟩ := Reserve.refresh_spec hr
    exact coverDebt_debtIndex hcovered
  rw [ho]
  exact coverDebt_repaid hindex ha hcovered hkept hq

/-- the side of the collateral is as it was before the debt was repaid -/
theorem Seized.of_repay {covered : UInt256} {amounts : Amounts} {receiveSupply : Bool} {c : Book}
    (hr : a.repay curve covered now = .ok b) (h : Seized receiveSupply amounts b c) :
    Seized receiveSupply amounts a c := by
  obtain ⟨_, _, _, _, _, _, rfl⟩ := Book.repay_spec hr
  exact ⟨h.shares, h.empties, h.falls⟩

/-- the stored reserve does not matter when supply is taken -/
theorem Seized.restore {amounts : Amounts} (h : Seized true amounts a b) (r : Reserve) :
    Seized true amounts a { b with collateralReserve := r } :=
  ⟨h.shares, h.empties, h.falls⟩

theorem liquidateNow_settles (hc : collateralConfig.Valid) (hindex : ray ≤ a.debtReserve.debtIndex.toNat)
    (ha : a.parties.borrowerDebt.AccruedTo a.debtReserve)
    (ha' : a.parties.borrowerCollateral.AccruedTo a.collateralReserve)
    (h : a.liquidateNow debtConfig collateralConfig terms now = .ok o) : Settles terms a o := by
  have hrepaid := liquidateNow_repaid hindex ha h
  obtain ⟨repaid, seized, hq, hr, hs, ht⟩ := Book.liquidateNow_eq_ok h
  obtain ⟨debt, hdebt, hne, hfit⟩ := Book.quote_spec hc hq
  have hcovered := hfit.debt
  rw [toNat_min] at hcovered
  rw [Position.totalDebt, add_eq_ok] at hdebt
  have hbefore : repaid.parties.borrowerCollateral.AccruedTo repaid.collateralReserve := by
    rw [(Book.repay_collateral hr).1, (Book.repay_collateral hr).2]
    exact ha'
  have hseized := (seize_seized hbefore hfit.parts hs ht).of_repay hr
  exact ⟨toNat_pos hne, by omega, hcovered.trans (Nat.min_le_left _ _), hrepaid, hseized⟩

/-- **A liquidation lets the debt fall by what it covers and the collateral by what it seizes**, whatever the book. -/
theorem liquidate_settles (hc : collateralConfig.Valid) (hindex : ray ≤ book.debtReserve.debtIndex.toNat)
    (h : book.liquidate debtConfig collateralConfig terms now = .ok o) :
    ∃ a, book.accrue now = .ok a ∧ Settles terms a o := by
  obtain ⟨_, _, a, result, ha, hr, rfl⟩ := Book.liquidate_eq_ok h
  obtain ⟨hd, hs⟩ := accrue_accruedTo ha
  have hsettles := liquidateNow_settles hc (hindex.trans (Book.accrue_moves ha).debtGrows.debtIndex) hd hs hr
  refine ⟨a, ha, ?_⟩
  split
  · next htaken =>
    have hseized := hsettles.seized
    rw [htaken] at hseized
    exact ⟨hsettles.covers, hsettles.covered_le, hsettles.offered, hsettles.repaid, htaken ▸ hseized.restore _⟩
  · exact hsettles

/-- a fifth of the sample borrower's collateral is seized, as supply -/
theorem liquidate_settles_borrower :
    ∃ pool book o, Pool.runFrom Sample.poolConfig Sample.borrowed = .ok pool ∧
      pool.bookOf Sample.liquidator Sample.borrower Sample.debt Sample.collateral = .ok book ∧
      book.liquidate Sample.reserveConfig Sample.reserveConfig (Sample.terms true) 3600 = .ok o ∧
      ∃ a, book.accrue 3600 = .ok a ∧ Settles (Sample.terms true) a o := by
  obtain ⟨pool, hrun, book, hbook, o, ho, hindex⟩ :
      ∃ pool, Pool.runFrom Sample.poolConfig Sample.borrowed = .ok pool ∧
        ∃ book, pool.bookOf Sample.liquidator Sample.borrower Sample.debt Sample.collateral = .ok book ∧
          ∃ o, book.liquidate Sample.reserveConfig Sample.reserveConfig (Sample.terms true) 3600 = .ok o ∧
            ray ≤ book.debtReserve.debtIndex.toNat := by
    decide +kernel
  exact ⟨pool, book, o, hrun, hbook, ho, liquidate_settles (by decide) hindex ho⟩

end Liquidation

end Liquidation

end Lending
