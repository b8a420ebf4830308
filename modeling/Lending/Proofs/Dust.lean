/-
What an amount too small to be scaled buys.

An amount that is worth less than half a scaled unit stands for no scaled balance at all: it is dust. Supplying and
minting unbacked supply refuse dust. Withdrawing, borrowing and moving a debt to the variable rate do not, although an
index above two makes dust of one unit: the underlying is paid out, or the stable debt cleared, and nothing is taken for
it. That is the only way in which something is had for nothing; any other amount moves the scaled balance.

Results:
- `scaled_eq_zero_iff`: precisely dust stands for nothing;
- `worth_not_dust`: the worth of a scaled balance is no dust, so a whole withdrawal always takes the balance;
- `taken_unless_dust`: the scaled balance moves with every withdrawal, loan and change of a debt that is not about dust;
- `dust_taken_for_nothing`: in a market of two years, all three are had for nothing.
-/
import Lending.Proofs.StatedAmounts

namespace Lending

open UInt256

/-- the amount is worth less than half a scaled unit -/
def Dust (index amount : UInt256) : Prop := 2 * (amount.toNat * ray) < index.toNat

instance (index amount : UInt256) : Decidable (Dust index amount) := inferInstanceAs (Decidable (_ < _))

/-- the scaled balance `high` exceeds `low`, unless what lies between them stands for an amount that is dust -/
structure Exceeds (index amount low high : UInt256) : Prop where
  dust : Dust index amount → high = low
  more : ¬ Dust index amount → low < high

section Scaling

variable {index amount worth low high scaled : UInt256}

theorem scaled_eq_zero_iff (h : amount.rayDiv index = .ok scaled) : scaled = 0 ↔ Dust index amount := by
  have hpos : 0 < index.toNat := Nat.pos_of_ne_zero (divHalfUp_eq_ok.1 h).1
  have hone := le_halfUp_iff (n := amount.toNat * ray) (k := 1) hpos
  rw [← toNat_rayDiv h] at hone
  rw [eq_zero_iff]
  unfold Dust
  omega

theorem ne_zero_of_worth (h : scaled.rayMul index = .ok worth) (hne : worth ≠ 0) : scaled ≠ 0 := by
  rintro rfl
  rw [zero_rayMul] at h
  exact hne (Except.ok.inj h).symm

/-- at an index of at least one, what a scaled balance is worth is no dust, unless it is worth nothing -/
theorem worth_not_dust (hi : ray ≤ index.toNat) (h : scaled.rayMul index = .ok worth) (hne : worth ≠ 0) :
    ¬ Dust index worth := by
  have hone : 1 ≤ scaled.toNat := toNat_pos (ne_zero_of_worth h hne)
  have hworth := lt_two_mul_halfUp (scaled.toNat * index.toNat) ray_pos
  rw [← toNat_rayMul h] at hworth
  have hindex := Nat.mul_le_mul_right index.toNat hone
  unfold Dust
  omega

namespace Exceeds

theorem of_sum (hzero : scaled = 0 ↔ Dust index amount) (hsum : low.toNat + scaled.toNat = high.toNat) :
    Exceeds index amount low high := by
  refine ⟨fun hdust => ext ?_, fun hmore => ?_⟩
  · have := eq_zero_iff.1 (hzero.2 hdust)
    omega
  · have := toNat_pos (mt hzero.1 hmore)
    rw [lt_iff]
    omega

theorem of_scaled (h : amount.rayDiv index = .ok scaled) (hsum : low.toNat + scaled.toNat = high.toNat) :
    Exceeds index amount low high :=
  of_sum (scaled_eq_zero_iff h) hsum

/-- where an amount that stands for nothing is refused, no dust gets through -/
theorem guarded (h : amount.rayDiv index = .ok scaled) (hne : scaled ≠ 0)
    (hsum : low.toNat + scaled.toNat = high.toNat) : ¬ Dust index amount ∧ low < high := by
  have hdust := mt (scaled_eq_zero_iff h).2 hne
  exact ⟨hdust, (of_scaled h hsum).more hdust⟩

end Exceeds

end Scaling

namespace Account

variable {given a b c : Account} {curve : RateCurve} {pool : PoolConfig} {config : ReserveConfig} {amount : UInt256}
  {action : AccountAction} {now : Nat}

/-! ## Supply -/

theorem supply_exceeds (h : a.supply curve amount = .ok b) :
    ¬ Dust a.reserve.liquidityIndex amount ∧ a.position.scaledSupply < b.position.scaledSupply := by
  obtain ⟨_, scaled, hr, hscaled, hne, _, _, _, _, rfl, _, hheld, _⟩ := supply_spec h
  obtain ⟨_, _, _, _, rfl, _⟩ := Reserve.refresh_spec hr
  exact Exceeds.guarded hscaled hne hheld.symm

theorem mintUnbacked_exceeds (h : a.mintUnbacked config amount = .ok b) :
    ¬ Dust a.reserve.liquidityIndex amount ∧ a.position.scaledSupply < b.position.scaledSupply := by
  obtain ⟨_, _, _, _, scaled, hr, hscaled, hne, _, _, _, rfl, _, hheld, _⟩ := mintUnbacked_spec h
  obtain ⟨_, _, _, _, rfl, _⟩ := Reserve.refresh_spec hr
  exact Exceeds.guarded hscaled hne hheld.symm

theorem withdraw_exceeds (hi : ray ≤ a.reserve.liquidityIndex.toNat) (ha : a.position.AccruedTo a.reserve)
    (h : a.withdraw curve amount = .ok b) :
    Exceeds a.reserve.liquidityIndex (a.withdrawn amount) b.position.scaledSupply a.position.scaledSupply := by
  obtain ⟨hne, _, _, scaled, _, hscaled, _, _, _, _, _, rfl, _, hheld, _⟩ := withdraw_spec h
  refine .of_sum ?_ hheld
  unfold Position.scaledPart at hscaled
  split at hscaled
  · next hwhole =>
    -- a whole balance is taken whole, and neither it nor its scaled form is nothing
    rw [hwhole] at hne ⊢
    cases hscaled
    exact iff_of_false (ne_zero_of_worth ha.supply hne) (worth_not_dust hi ha.supply hne)
  · exact scaled_eq_zero_iff hscaled

/-! ## Debt -/

theorem takeOn_variable_exceeds (h : a.takeOn amount now .variableRate = .ok b) :
    Exceeds a.reserve.debtIndex amount a.position.scaledVariableDebt b.position.scaledVariableDebt := by
  obtain ⟨scaled, hscaled, _, _, _, rfl, _, hheld⟩ := takeOn_variable_spec h
  exact .of_scaled hscaled hheld.symm

theorem borrow_variable_exceeds (h : a.borrow curve amount .variableRate now = .ok b) :
    Exceeds a.reserve.debtIndex amount a.position.scaledVariableDebt b.position.scaledVariableDebt := by
  obtain ⟨_, taken, ht, _, hp⟩ := borrow_eq_ok h
  rw [(Position.receive_sameDebts hp).scaledVariableDebt]
  exact takeOn_variable_exceeds ht

theorem convert_variable_exceeds (h : a.convert curve .stableRate .variableRate now = .ok b) :
    Exceeds a.reserve.debtIndex a.position.stableDebt a.position.scaledVariableDebt b.position.scaledVariableDebt := by
  obtain ⟨_, given, taken, hg, ht, _, _, rfl⟩ := convert_eq_ok h
  obtain ⟨hstable, _⟩ := giveUp_stable_drops hg
  have hexceeds := takeOn_variable_exceeds ht
  rw [hstable.debtIndex, hstable.scaledVariableDebt] at hexceeds
  exact hexceeds

/-! ## Whole actions -/

/-- accruing and settling leave the scaled balances to the action in between -/
theorem perform_scaled (h : given.perform pool config now action = .ok c) :
    ∃ a b, given.accrue now = .ok a ∧ action.change pool config now a = .ok b ∧ a.position.AccruedTo a.reserve ∧
      given.reserve.liquidityIndex ≤ a.reserve.liquidityIndex ∧
      (a.position.scaledSupply = given.position.scaledSupply ∧
        a.position.scaledVariableDebt = given.position.scaledVariableDebt) ∧
      c.position.scaledSupply = b.position.scaledSupply ∧
      c.position.scaledVariableDebt = b.position.scaledVariableDebt := by
  obtain ⟨_, a, b, ha, hchange, hs⟩ := perform_eq_ok h
  have hworth := accrue_accruedTo ha
  refine ⟨a, b, ha, hchange, hworth, ?_⟩
  obtain ⟨_, _, hr, hp, rfl⟩ := accrue_eq_ok ha
  obtain ⟨_, hq, rfl⟩ := settle_eq_ok hs
  refine ⟨(Reserve.accrue_grows hr).liquidityIndex, ?_⟩
  obtain ⟨_, _, _, _, rfl, _⟩ := Position.accrue_eq_ok hp
  obtain ⟨_, _, _, _, rfl, _⟩ := Position.accrue_eq_ok hq
  exact ⟨⟨rfl, rfl⟩, rfl, rfl⟩

/-- **Only dust is had for nothing.** A withdrawal, a variable loan and a change from the stable to the variable rate
move the scaled balance, unless they are about dust, which leaves it as it is; a supply and an unbacked mint are never
about dust. -/
theorem taken_unless_dust (hi : ray ≤ given.reserve.liquidityIndex.toNat)
    (h : given.perform pool config now action = .ok c) :
    ∃ a, given.accrue now = .ok a ∧
      (∀ amount, action = .withdraw amount → Exceeds a.reserve.liquidityIndex (a.withdrawn amount)
        c.position.scaledSupply given.position.scaledSupply) ∧
      (∀ amount, action = .borrow amount .variableRate → Exceeds a.reserve.debtIndex amount
        given.position.scaledVariableDebt c.position.scaledVariableDebt) ∧
      (action = .swapMode .stableRate → Exceeds a.reserve.debtIndex a.position.stableDebt
        given.position.scaledVariableDebt c.position.scaledVariableDebt) ∧
      ∀ amount, action = .supply amount ∨ action = .mintUnbacked amount →
        ¬ Dust a.reserve.liquidityIndex amount ∧ given.position.scaledSupply < c.position.scaledSupply := by
  obtain ⟨a, b, ha, hchange, hworth, hgrows, ⟨hsupply, hdebt⟩, hsupply', hdebt'⟩ := perform_scaled h
  refine ⟨a, ha, ?_⟩
  rw [hsupply', hdebt', ← hsupply, ← hdebt]
  refine ⟨?_, ?_, ?_, ?_⟩
  · rintro amount rfl
    exact withdraw_exceeds (hi.trans hgrows) hworth hchange
  · rintro amount rfl
    exact borrow_variable_exceeds hchange
  · rintro rfl
    exact convert_variable_exceeds hchange
  · rintro amount (rfl | rfl)
    · exact supply_exceeds hchange
    · exact mintUnbacked_exceeds hchange

/-- at indices not far above one, ten tokens are no dust, three are not, and a debt of twenty is not -/
theorem taken_unless_dust_tokens :
    ray ≤ Sample.agedAccount.reserve.liquidityIndex.toNat ∧
      (∃ b, Sample.agedAccount.perform Sample.poolConfig Sample.reserveConfig 3600
          (.withdraw (Sample.tokens 10)) = .ok b ∧
        b.position.scaledSupply < Sample.agedAccount.position.scaledSupply) ∧
      (∃ b, Sample.agedAccount.perform Sample.poolConfig Sample.reserveConfig 3600
          (.borrow (Sample.tokens 3) .variableRate) = .ok b ∧
        Sample.agedAccount.position.scaledVariableDebt < b.position.scaledVariableDebt) ∧
      ∃ b, Sample.agedAccount.perform Sample.poolConfig Sample.reserveConfig 3600 (.swapMode .stableRate) = .ok b ∧
        Sample.agedAccount.position.scaledVariableDebt < b.position.scaledVariableDebt := by
  have hi : ray ≤ Sample.agedAccount.reserve.liquidityIndex.toNat := by decide
  obtain ⟨⟨b, hb, _⟩, ⟨c, hc, _⟩, ⟨d, hd, _⟩⟩ :
      (∃ b, Sample.agedAccount.perform Sample.poolConfig Sample.reserveConfig 3600
        (.withdraw (Sample.tokens 10)) = .ok b ∧ True) ∧
      (∃ c, Sample.agedAccount.perform Sample.poolConfig Sample.reserveConfig 3600
        (.borrow (Sample.tokens 3) .variableRate) = .ok c ∧ True) ∧
      ∃ d, Sample.agedAccount.perform Sample.poolConfig Sample.reserveConfig 3600 (.swapMode .stableRate) = .ok d ∧
        True := by
    decide +kernel
  have hweighty : ∀ a, Sample.agedAccount.accrue 3600 = .ok a →
      ¬ Dust a.reserve.liquidityIndex (a.withdrawn (Sample.tokens 10)) ∧
        ¬ Dust a.reserve.debtIndex (Sample.tokens 3) ∧ ¬ Dust a.reserve.debtIndex a.position.stableDebt := by
    decide +kernel
  refine ⟨hi, ⟨b, hb, ?_⟩, ⟨c, hc, ?_⟩, d, hd, ?_⟩
  · obtain ⟨a, ha, hwithdraw, _⟩ := taken_unless_dust hi hb
    exact (hwithdraw _ rfl).more (hweighty a ha).1
  · obtain ⟨a, ha, _, hborrow, _⟩ := taken_unless_dust hi hc
    exact (hborrow _ rfl).more (hweighty a ha).2.1
  · obtain ⟨a, ha, _, _, hswap, _⟩ := taken_unless_dust hi hd
    exact (hswap rfl).more (hweighty a ha).2.2

end Account

namespace Sample

/-- settings under which a variable loan costs one hundred percent a year and a stable loan nothing -/
def steepConfig : ReserveConfig where
  curve := {
    optimalUsage := percent 50
    baseVariable := percent 100
    variableSlope1 := 0
    variableSlope2 := 0
    stableSlope1 := 0
    stableSlope2 := 0
    stableOffset := 0
    stableExcessOffset := 0
    optimalStableShare := percent 100 }
  liquidationBonus := 10500
  liquidationProtocolFee := 1000
  unbackedMintCap := 0

/-- 900 of 1000 tokens are lent out at the variable rate, and one unit at the stable rate -/
def steepLoans : List Event :=
  [.list steepConfig (listing debt) 1000, .setWallet supplier debt (tokens 1000),
   .request ⟨1000, .account supplier debt (.supply (tokens 1000))⟩,
   .request ⟨1000, .account borrower debt (.borrow (tokens 900) .variableRate)⟩,
   .request ⟨1000, .account liquidator debt (.borrow 1 .stableRate)⟩]

/-- two years after the loans -/
def twoYearsLater : Nat := 1000 + 2 * secondsPerYear

end Sample

/-- two years later the supplier withdraws a unit and keeps the whole supply, the first borrower borrows a unit and owes
no more, and the second gets rid of the debt by changing its kind -/
theorem Pool.dust_taken_for_nothing :
    ∃ pool, runFrom Sample.poolConfig Sample.steepLoans = .ok pool ∧
      (∃ a, pool.accountOf Sample.supplier Sample.debt = .ok a ∧ ray ≤ a.reserve.liquidityIndex.toNat ∧
        ray ≤ a.reserve.debtIndex.toNat ∧
        ∃ b, a.perform Sample.poolConfig Sample.steepConfig Sample.twoYearsLater (.withdraw 1) = .ok b ∧
          b.position.wallet.toNat = a.position.wallet.toNat + 1 ∧
          b.position.scaledSupply = a.position.scaledSupply) ∧
      (∃ a, pool.accountOf Sample.borrower Sample.debt = .ok a ∧
        ∃ b, a.perform Sample.poolConfig Sample.steepConfig Sample.twoYearsLater (.borrow 1 .variableRate) = .ok b ∧
          b.position.wallet.toNat = a.position.wallet.toNat + 1 ∧
          b.position.scaledVariableDebt = a.position.scaledVariableDebt) ∧
      ∃ a, pool.accountOf Sample.liquidator Sample.debt = .ok a ∧ a.position.bothDebts = 1 ∧
        ∃ b, a.perform Sample.poolConfig Sample.steepConfig Sample.twoYearsLater (.swapMode .stableRate) = .ok b ∧
          b.position.scaledVariableDebt = a.position.scaledVariableDebt ∧ b.position.bothDebts = 0 := by
  decide +kernel

end Lending
