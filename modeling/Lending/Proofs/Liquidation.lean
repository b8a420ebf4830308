/-
What a liquidation keeps.

A book has two sides, the market of the debt with two positions and the market of the collateral with three. `Moves`
says of both sides what it says of an account: the markets grow older, the five positions stay in their places, and the
gaps of supply and of underlying stay as they are. `liquidate_moves` has it for the whole liquidation, also when the
collateral is taken as supply and its reserve goes back as it came.
-/
import Lending.Proofs.Account
import Lending.Proofs.LiquidationSteps

namespace Lending.Liquidation

open UInt256

/-! ## The relation -/

namespace Book

/-- the total of the debt market less the parts of its two positions -/
def debtGap (t : Tally) (book : Book) : ℤ :=
  t.total book.debtReserve - t.part book.parties.borrowerDebt - t.part book.parties.liquidatorDebt

/-- the total of the collateral market less the parts of its three positions -/
def collateralGap (t : Tally) (book : Book) : ℤ :=
  t.total book.collateralReserve - t.part book.parties.borrowerCollateral - t.part book.parties.liquidatorCollateral -
    t.part book.parties.treasury

end Book

/-- every position of `q` is in the place of the same position of `p` -/
structure Parties.SamePlaces (p q : Parties) : Prop where
  borrowerDebt : q.borrowerDebt.key = p.borrowerDebt.key
  borrowerCollateral : q.borrowerCollateral.key = p.borrowerCollateral.key
  liquidatorDebt : q.liquidatorDebt.key = p.liquidatorDebt.key
  liquidatorCollateral : q.liquidatorCollateral.key = p.liquidatorCollateral.key
  treasury : q.treasury.key = p.treasury.key

theorem Parties.SamePlaces.refl (p : Parties) : SamePlaces p p := ⟨rfl, rfl, rfl, rfl, rfl⟩

theorem Parties.SamePlaces.trans {p q r : Parties} (h1 : SamePlaces p q) (h2 : SamePlaces q r) : SamePlaces p r where
  borrowerDebt := h2.borrowerDebt.trans h1.borrowerDebt
  borrowerCollateral := h2.borrowerCollateral.trans h1.borrowerCollateral
  liquidatorDebt := h2.liquidatorDebt.trans h1.liquidatorDebt
  liquidatorCollateral := h2.liquidatorCollateral.trans h1.liquidatorCollateral
  treasury := h2.treasury.trans h1.treasury

namespace Book

/-- `b` comes from `a` by moving supply and underlying within each market -/
structure Moves (a b : Book) : Prop where
  debtGrows : a.debtReserve.Grows b.debtReserve
  collateralGrows : a.collateralReserve.Grows b.collateralReserve
  places : a.parties.SamePlaces b.parties
  debtSupply : b.debtGap .supply = a.debtGap .supply
  debtCash : b.debtGap .cash = a.debtGap .cash
  collateralSupply : b.collateralGap .supply = a.collateralGap .supply
  collateralCash : b.collateralGap .cash = a.collateralGap .cash

theorem Moves.refl (a : Book) : Moves a a :=
  ⟨Reserve.Grows.refl _, Reserve.Grows.refl _, Parties.SamePlaces.refl _, rfl, rfl, rfl, rfl⟩

theorem Moves.trans {a b c : Book} (h1 : Moves a b) (h2 : Moves b c) : Moves a c :=
  ⟨h1.debtGrows.trans h2.debtGrows, h1.collateralGrows.trans h2.collateralGrows, h1.places.trans h2.places,
    h2.debtSupply.trans h1.debtSupply, h2.debtCash.trans h1.debtCash, h2.collateralSupply.trans h1.collateralSupply,
    h2.collateralCash.trans h1.collateralCash⟩

theorem Moves.debtGap_eq {a b : Book} (h : Moves a b) {t : Tally} (ht : t.Conserved) :
    b.debtGap t = a.debtGap t := by
  rcases ht with rfl | rfl
  · exact h.debtSupply
  · exact h.debtCash

theorem Moves.collateralGap_eq {a b : Book} (h : Moves a b) {t : Tally} (ht : t.Conserved) :
    b.collateralGap t = a.collateralGap t := by
  rcases ht with rfl | rfl
  · exact h.collateralSupply
  · exact h.collateralCash

/-! ## Accruing and settling -/

theorem accrueReserves_moves {a b : Book} {now : Nat} (h : a.accrueReserves now = .ok b) : a.Moves b := by
  obtain ⟨d, c, hd, hc, rfl⟩ := accrueReserves_eq_ok h
  have hdg := Reserve.accrue_grows hd
  have hcg := Reserve.accrue_grows hc
  obtain ⟨_, _, _, _, _, _, rfl, _⟩ := Reserve.accrue_eq_ok hd
  obtain ⟨_, _, _, _, _, _, rfl, _⟩ := Reserve.accrue_eq_ok hc
  exact ⟨hdg, hcg, Parties.SamePlaces.refl _, rfl, rfl, rfl, rfl⟩

theorem settle_moves {a b : Book} {now : Nat} (h : a.settle now = .ok b) : a.Moves b := by
  obtain ⟨⟨bd, bc, ld, lc, t⟩, ⟨hbd, hbc, hld, hlc, ht⟩, rfl⟩ := settle_eq_ok h
  obtain ⟨_, _, _, _, rfl, _⟩ := Position.accrue_eq_ok hbd
  obtain ⟨_, _, _, _, rfl, _⟩ := Position.accrue_eq_ok hbc
  obtain ⟨_, _, _, _, rfl, _⟩ := Position.accrue_eq_ok hld
  obtain ⟨_, _, _, _, rfl, _⟩ := Position.accrue_eq_ok hlc
  obtain ⟨_, _, _, _, rfl, _⟩ := Position.accrue_eq_ok ht
  exact ⟨Reserve.Grows.refl _, Reserve.Grows.refl _, ⟨rfl, rfl, rfl, rfl, rfl⟩, rfl, rfl, rfl, rfl⟩

theorem settle_reserves {a b : Book} {now : Nat} (h : a.settle now = .ok b) :
    b.debtReserve = a.debtReserve ∧ b.collateralReserve = a.collateralReserve := by
  obtain ⟨_, _, rfl⟩ := settle_eq_ok h
  exact ⟨rfl, rfl⟩

theorem accrue_moves {a b : Book} {now : Nat} (h : a.accrue now = .ok b) : a.Moves b := by
  obtain ⟨accrued, ha, h⟩ := accrue_eq_ok h
  exact (accrueReserves_moves ha).trans (settle_moves h)

end Book

/-! ## Repaying -/

theorem coverDebt_moves {a b : Account} {covered : UInt256} {now : Nat} (h : coverDebt covered now a = .ok b) :
    a.Moves b := by
  rcases coverDebt_cases h with ⟨_, h⟩ | ⟨_, cleared, hc, h⟩
  · exact Account.giveUp_moves h
  · refine Account.Moves.trans ?_ (Account.giveUp_moves h)
    rcases clearVariableDebt_cases hc with ⟨_, rfl⟩ | ⟨_, hc⟩
    · exact Account.Moves.refl _
    · exact Account.giveUp_moves hc

namespace Book

theorem repay_moves {a b : Book} {curve : RateCurve} {covered : UInt256} {now : Nat}
    (h : a.repay curve covered now = .ok b) : a.Moves b := by
  obtain ⟨given, r, p, hc, hr, hp, rfl⟩ := repay_spec h
  have hm := coverDebt_moves hc
  have hg := Reserve.refresh_grows hr
  have hsupply := hm.supply
  have hcash := hm.cash
  obtain ⟨_, _, _, _, rfl, hav, _⟩ := Reserve.refresh_spec hr
  obtain ⟨_, rfl, hpaid⟩ := Position.spend_spec hp
  rw [toNat_zero] at hav
  refine ⟨hm.grows.trans hg, Reserve.Grows.refl _, ⟨hm.key, rfl, rfl, rfl, rfl⟩, ?_, ?_, rfl, rfl⟩
  · simp only [Tally.gap, Tally.supply, debtGap] at hsupply ⊢
    omega
  · simp only [Tally.gap, Tally.cash, debtGap] at hcash ⊢
    omega

/-! ## Seizing -/

theorem seizeSupply_moves {a b : Book} {scaled : UInt256} (h : a.seizeSupply scaled = .ok b) : a.Moves b := by
  obtain ⟨p, q, hp, hq, rfl⟩ := seizeSupply_spec h
  obtain ⟨_, _, rfl, hremoved, _⟩ := Position.removeSupply_spec hp
  obtain ⟨_, _, rfl, hadded, _⟩ := Position.addSupply_spec hq
  refine ⟨Reserve.Grows.refl _, Reserve.Grows.refl _, ⟨rfl, rfl, rfl, rfl, rfl⟩, rfl, rfl, ?_, rfl⟩
  simp only [Tally.supply, collateralGap]
  omega

theorem seizeUnderlying_moves {a b : Book} {curve : RateCurve} {amount scaled : UInt256}
    (h : a.seizeUnderlying curve amount scaled = .ok b) : a.Moves b := by
  obtain ⟨_, refreshed, p, q, hr, hp, hq, total, rfl, htotal⟩ := seizeUnderlying_spec h
  have hg := (Reserve.refresh_grows hr).trans (refreshed.grows_supplied total refreshed.unbacked)
  obtain ⟨_, _, _, _, rfl, hav, _⟩ := Reserve.refresh_spec hr
  obtain ⟨_, _, rfl, hremoved, _⟩ := Position.removeSupply_spec hp
  obtain ⟨_, rfl, hreceived⟩ := Position.receive_spec hq
  dsimp only at htotal
  rw [toNat_zero] at hav
  refine ⟨Reserve.Grows.refl _, hg, ⟨rfl, rfl, rfl, rfl, rfl⟩, rfl, rfl, ?_, ?_⟩
  · simp only [Tally.supply, collateralGap]
    omega
  · simp only [Tally.cash, collateralGap]
    omega

theorem take_moves {a b : Book} {curve : RateCurve} {amount scaled : UInt256} {receiveSupply : Bool}
    (h : a.take curve amount scaled receiveSupply = .ok b) : a.Moves b := by
  unfold take at h
  split at h
  · exact seizeSupply_moves h
  · exact seizeUnderlying_moves h

theorem chargeFee_moves {a b : Book} {scaled : UInt256} (h : a.chargeFee scaled = .ok b) : a.Moves b := by
  rcases chargeFee_cases h with ⟨_, rfl⟩ | ⟨p, q, hp, hq, rfl⟩
  · exact Moves.refl _
  · obtain ⟨_, _, rfl, hremoved, _⟩ := Position.removeSupply_spec hp
    obtain ⟨_, rfl, hadded⟩ := Position.creditSupply_spec hq
    refine ⟨Reserve.Grows.refl _, Reserve.Grows.refl _, ⟨rfl, rfl, rfl, rfl, rfl⟩, rfl, rfl, ?_, rfl⟩
    simp only [Tally.supply, collateralGap]
    omega

theorem chargeFee_collateralReserve {a b : Book} {scaled : UInt256} (h : a.chargeFee scaled = .ok b) :
    b.collateralReserve = a.collateralReserve := by
  rcases chargeFee_cases h with ⟨_, rfl⟩ | ⟨_, _, _, _, rfl⟩
  · rfl
  · rfl

theorem dropCollateral_moves (a : Book) : a.Moves a.dropCollateral :=
  ⟨Reserve.Grows.refl _, Reserve.Grows.refl _, ⟨rfl, rfl, rfl, rfl, rfl⟩, rfl, rfl, rfl, rfl⟩

theorem seize_moves {a b : Book} {curve : RateCurve} {amounts : Amounts} {receiveSupply : Bool}
    (h : a.seize curve amounts receiveSupply = .ok b) : a.Moves b := by
  obtain ⟨scaled, taken, charged, _, ht, hc, rfl⟩ := seize_spec h
  have hm := (take_moves ht).trans (chargeFee_moves hc)
  split
  · exact hm.trans (dropCollateral_moves charged)
  · exact hm

/-- supply that stays supply is not taken out of its market -/
theorem seize_collateralReserve {a b : Book} {curve : RateCurve} {amounts : Amounts}
    (h : a.seize curve amounts true = .ok b) : b.collateralReserve = a.collateralReserve := by
  obtain ⟨scaled, taken, charged, _, ht, hc, rfl⟩ := seize_spec h
  have hcharged := chargeFee_collateralReserve hc
  obtain ⟨_, _, _, _, rfl⟩ := seizeSupply_spec ht
  split
  · exact hcharged
  · exact hcharged

/-- seizing leaves the side of the debt alone -/
theorem seize_debt {a b : Book} {curve : RateCurve} {amounts : Amounts} {receiveSupply : Bool}
    (h : a.seize curve amounts receiveSupply = .ok b) :
    b.debtReserve = a.debtReserve ∧ b.parties.borrowerDebt = a.parties.borrowerDebt := by
  obtain ⟨scaled, taken, charged, _, ht, hc, rfl⟩ := seize_spec h
  have htaken : taken.debtReserve = a.debtReserve ∧ taken.parties.borrowerDebt = a.parties.borrowerDebt := by
    unfold take at ht
    split at ht
    · obtain ⟨_, _, _, _, rfl⟩ := seizeSupply_spec ht
      exact ⟨rfl, rfl⟩
    · obtain ⟨_, _, _, _, _, _, _, _, rfl, _⟩ := seizeUnderlying_spec ht
      exact ⟨rfl, rfl⟩
  have hcharged : charged.debtReserve = a.debtReserve ∧ charged.parties.borrowerDebt = a.parties.borrowerDebt := by
    rcases chargeFee_cases hc with ⟨_, rfl⟩ | ⟨_, _, _, _, rfl⟩
    · exact htaken
    · exact htaken
  split
  · exact hcharged
  · exact hcharged

/-! ## The liquidation -/

theorem liquidateNow_moves {a : Book} {o : Outcome} {debtConfig collateralConfig : ReserveConfig} {terms : Terms}
    {now : Nat} (h : a.liquidateNow debtConfig collateralConfig terms now = .ok o) : a.Moves o.book := by
  obtain ⟨repaid, seized, _, hr, hs, ht⟩ := liquidateNow_eq_ok h
  exact ((repay_moves hr).trans (seize_moves hs)).trans (settle_moves ht)

theorem liquidateNow_collateralReserve {a : Book} {o : Outcome} {debtConfig collateralConfig : ReserveConfig}
    {terms : Terms} {now : Nat} (h : a.liquidateNow debtConfig collateralConfig terms now = .ok o)
    (ht : terms.receiveSupply = true) : o.book.collateralReserve = a.collateralReserve := by
  obtain ⟨repaid, seized, _, hr, hs, hset⟩ := liquidateNow_eq_ok h
  rw [ht] at hs
  exact ((settle_reserves hset).2.trans (seize_collateralReserve hs)).trans (repay_collateral hr).1

theorem accrue_collateralReserve {a b : Book} {now : Nat} (h : a.accrue now = .ok b) :
    a.collateralReserve.accrue now = .ok b.collateralReserve := by
  obtain ⟨accrued, ha, h⟩ := accrue_eq_ok h
  obtain ⟨_, c, _, hc, rfl⟩ := accrueReserves_eq_ok ha
  rw [(settle_reserves h).2]
  exact hc

/-- accruing touches neither the supply nor the underlying that a market holds -/
theorem accrue_collateralTotals {a b : Book} {now : Nat} (h : a.accrue now = .ok b) :
    Tally.supply.total b.collateralReserve = Tally.supply.total a.collateralReserve ∧
      Tally.cash.total b.collateralReserve = Tally.cash.total a.collateralReserve := by
  obtain ⟨_, _, _, _, _, _, hb, _⟩ := Reserve.accrue_eq_ok (accrue_collateralReserve h)
  rw [hb]
  exact ⟨rfl, rfl⟩

/-- a book may be given back an older collateral reserve with the same supply and the same underlying -/
theorem Moves.restore {a b : Book} (h : a.Moves b)
    (hs : Tally.supply.total b.collateralReserve = Tally.supply.total a.collateralReserve)
    (hc : Tally.cash.total b.collateralReserve = Tally.cash.total a.collateralReserve) :
    a.Moves { b with collateralReserve := a.collateralReserve } := by
  have hsupply := h.collateralSupply
  have hcash := h.collateralCash
  refine ⟨h.debtGrows, Reserve.Grows.refl _, h.places, h.debtSupply, h.debtCash, ?_, ?_⟩
  · simp only [collateralGap] at hsupply ⊢
    omega
  · simp only [collateralGap] at hcash ⊢
    omega

/-- **A liquidation moves supply and underlying within each market, and makes or loses none.** -/
theorem liquidate_moves {a : Book} {o : Outcome} {debtConfig collateralConfig : ReserveConfig} {terms : Terms}
    {now : Nat} (h : a.liquidate debtConfig collateralConfig terms now = .ok o) : a.Moves o.book := by
  obtain ⟨_, _, accrued, result, ha, ho, rfl⟩ := liquidate_eq_ok h
  have hm := (accrue_moves ha).trans (liquidateNow_moves ho)
  split
  · next ht =>
    have hr := liquidateNow_collateralReserve ho ht
    have htotals := accrue_collateralTotals ha
    exact hm.restore (by rw [hr]; exact htotals.1) (by rw [hr]; exact htotals.2)
  · exact hm

end Book

end Lending.Liquidation
