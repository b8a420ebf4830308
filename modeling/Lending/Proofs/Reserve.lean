/-
What each update does to a reserve, and why it can be refused.

Every update has one lemma that gives the whole reserve after it: the fields it writes with their values, all others as
they were. Nothing beyond these lemmas is used of the updates. `Grows` is what every one of them keeps: the listing is
fixed, and the indices, the treasury's supply and the time of the last update never fall.

The refusals name their side conditions: indices of at least one (`Sound`), a reserve factor of at most one hundred
percent, and amounts that the reserve covers.
-/
import Lending.Proofs.Growth
import Lending.Proofs.Rates
import Lending.Reserve.Accrual
import Lending.Reserve.Update

namespace Lending.Reserve

open UInt256

/-! ## What never falls -/

/-- `s` comes after `r` in the life of one market -/
structure Grows (r s : Reserve) : Prop where
  listing : s.listing = r.listing
  liquidityIndex : r.liquidityIndex.toNat ≤ s.liquidityIndex.toNat
  debtIndex : r.debtIndex.toNat ≤ s.debtIndex.toNat
  treasury : r.treasuryScaled.toNat ≤ s.treasuryScaled.toNat
  lastUpdate : r.lastUpdate ≤ s.lastUpdate

theorem Grows.refl (r : Reserve) : Grows r r := ⟨rfl, le_rfl, le_rfl, le_rfl, le_rfl⟩

theorem Grows.trans {r s t : Reserve} (h1 : Grows r s) (h2 : Grows s t) : Grows r t :=
  ⟨h2.listing.trans h1.listing, h1.liquidityIndex.trans h2.liquidityIndex, h1.debtIndex.trans h2.debtIndex,
    h1.treasury.trans h2.treasury, h1.lastUpdate.trans h2.lastUpdate⟩

/-- what is supplied, backed or not, may rise and fall -/
theorem grows_supplied (r : Reserve) (scaledSupply unbacked : UInt256) : Grows r { r with scaledSupply, unbacked } :=
  ⟨rfl, le_rfl, le_rfl, le_rfl, le_rfl⟩

/-- both indices are at least one, and at most all of the interest goes to the treasury -/
structure Sound (r : Reserve) : Prop where
  liquidityIndex : ray ≤ r.liquidityIndex.toNat
  debtIndex : ray ≤ r.debtIndex.toNat
  factor : r.listing.reserveFactor ≤ hundredPercent

theorem sound_opened {listing : Listing} (h : listing.reserveFactor ≤ hundredPercent) (now : Nat) :
    (opened listing now).Sound :=
  ⟨le_rfl, le_rfl, h⟩

theorem Sound.grows {r s : Reserve} (h : r.Sound) (hg : Grows r s) : s.Sound :=
  ⟨h.liquidityIndex.trans hg.liquidityIndex, h.debtIndex.trans hg.debtIndex, by rw [hg.listing]; exact h.factor⟩

theorem Sound.liquidityIndex_ne_zero {r : Reserve} (h : r.Sound) : r.liquidityIndex.toNat ≠ 0 := by
  have := h.liquidityIndex
  have := ray_pos
  omega

theorem Sound.debtIndex_ne_zero {r : Reserve} (h : r.Sound) : r.debtIndex.toNat ≠ 0 := by
  have := h.debtIndex
  have := ray_pos
  omega

/-! ## Accruing -/

theorem creditAt_le {r : Reserve} {amount index t : UInt256} (h : r.creditAt amount index = .ok t) :
    r.treasuryScaled.toNat ≤ t.toNat := by
  unfold creditAt at h
  split at h
  · cases h
    exact le_rfl
  · obtain ⟨scaled, _, h⟩ := bind_eq_ok.1 h
    rw [add_eq_ok] at h
    omega

theorem le_debtIndexNow {r : Reserve} {now : Nat} {index : UInt256} (h : r.debtIndexNow now = .ok index) :
    r.debtIndex.toNat ≤ index.toNat := by
  unfold debtIndexNow at h
  split at h
  · cases h
    exact le_rfl
  · exact le_debtIndexAt h

theorem accrue_eq_ok {r s : Reserve} {now : Nat} (h : r.accrue now = .ok s) :
    r.lastUpdate ≤ now ∧ ∃ liquidityIndex debtIndex totalVariableDebt totalStableDebt treasuryScaled : UInt256,
      s = { r with liquidityIndex, debtIndex, totalVariableDebt, totalStableDebt, treasuryScaled, lastUpdate := now } ∧
      r.liquidityIndex.toNat ≤ liquidityIndex.toNat ∧ r.debtIndex.toNat ≤ debtIndex.toNat ∧
      r.treasuryScaled.toNat ≤ treasuryScaled.toNat := by
  simp only [accrue, bind_eq_ok, require_eq_ok] at h
  obtain ⟨_, hle, h⟩ := h
  refine ⟨hle, ?_⟩
  split at h
  · next he =>
    cases h
    subst he
    exact ⟨_, _, _, _, _, rfl, le_rfl, le_rfl, le_rfl⟩
  · simp only [advance, bind_eq_ok] at h
    obtain ⟨li, hli, di, hdi, _, _, tv, _, _, _, ts, _, _, _, _, _, _, _, _, _, tr, htr, h⟩ := h
    cases h
    exact ⟨li, di, tv, ts, tr, rfl, le_supplyIndexAt hli, le_debtIndexNow hdi, creditAt_le htr⟩

theorem accrue_grows {r s : Reserve} {now : Nat} (h : r.accrue now = .ok s) : Grows r s := by
  obtain ⟨hle, li, di, tv, ts, tr, rfl, hli, hdi, htr⟩ := accrue_eq_ok h
  exact ⟨rfl, hli, hdi, htr, hle⟩

/-- at the very time of its last update a reserve is accrued already -/
theorem accrue_self (r : Reserve) : r.accrue r.lastUpdate = .ok r := by
  unfold accrue
  rw [bind_eq_ok]
  exact ⟨(), require_eq_ok.2 le_rfl, if_pos rfl⟩

/-! ## Liquidity and rates -/

theorem refresh_spec {r s : Reserve} {curve : RateCurve} {added taken : UInt256}
    (h : r.refresh curve added taken = .ok s) :
    ∃ (available totalLiquidity totalVariableDebt : UInt256) (rates : InterestRates),
      s = { r with available, totalLiquidity, totalVariableDebt, rates } ∧
      available.toNat + taken.toNat = r.available.toNat + added.toNat ∧
      totalLiquidity.toNat = available.toNat + r.unbacked.toNat ∧
      r.scaledVariableDebt.rayMul r.debtIndex = .ok totalVariableDebt ∧ curve.rates s.balances = .ok rates := by
  obtain ⟨moved, counted, revalued, h1, h2, h3, h4⟩ := refresh_eq_ok.1 h
  simp only [moveLiquidity, bind_eq_ok, add_eq_ok, sub_eq_ok] at h1
  obtain ⟨held, hheld, available, ⟨hle, hav⟩, h1⟩ := h1
  cases h1
  simp only [recountLiquidity, bind_eq_ok, add_eq_ok] at h2
  obtain ⟨total, htotal, h2⟩ := h2
  cases h2
  simp only [revalueVariableDebt, bind_eq_ok] at h3
  obtain ⟨variableDebt, hvariable, h3⟩ := h3
  cases h3
  simp only [reprice, bind_eq_ok] at h4
  obtain ⟨rates, hrates, h4⟩ := h4
  cases h4
  exact ⟨available, total, variableDebt, rates, rfl, by omega, htotal, hvariable, hrates⟩

theorem refresh_grows {r s : Reserve} {curve : RateCurve} {added taken : UInt256}
    (h : r.refresh curve added taken = .ok s) : Grows r s := by
  obtain ⟨_, _, _, _, rfl, _⟩ := refresh_spec h
  exact ⟨rfl, le_rfl, le_rfl, le_rfl, le_rfl⟩

/-! ## Variable debt -/

theorem mintVariableDebt_spec {r s : Reserve} {scaled : UInt256} (h : r.mintVariableDebt scaled = .ok s) :
    ∃ scaledVariableDebt totalVariableDebt : UInt256, s = { r with scaledVariableDebt, totalVariableDebt } ∧
      scaledVariableDebt.toNat = r.scaledVariableDebt.toNat + scaled.toNat := by
  simp only [mintVariableDebt, Stages.run, mintVariableStages, revalueVariableDebt, List.foldlM_cons, List.foldlM_nil,
    bind_pure, bind_eq_ok, add_eq_ok] at h
  obtain ⟨_, ⟨minted, hm, h1⟩, total, _, h⟩ := h
  cases h1
  cases h
  exact ⟨minted, total, rfl, hm⟩

theorem burnVariableDebt_spec {r s : Reserve} {scaled : UInt256} (h : r.burnVariableDebt scaled = .ok s) :
    ∃ totalVariableDebt : UInt256,
      s = { r with scaledVariableDebt := r.scaledVariableDebt.monus scaled, totalVariableDebt } := by
  simp only [burnVariableDebt, Stages.run, burnVariableStages, revalueVariableDebt, List.foldlM_cons, List.foldlM_nil,
    bind_pure, bind_eq_ok] at h
  obtain ⟨_, h1, total, _, h⟩ := h
  cases h1
  cases h
  exact ⟨total, rfl⟩

/-! ## Stable debt -/

theorem mintStableDebt_spec {r s : Reserve} {amount rate : UInt256} {now : Nat}
    (h : r.mintStableDebt amount rate now = .ok s) :
    ∃ averageStableRate debt : UInt256,
      s = { r with averageStableRate, totalStableDebt := debt, principalStableDebt := debt, stableDebtUpdated := now } ∧
      debt.toNat = r.totalStableDebt.toNat + amount.toNat ∧
      blendedRate r.totalStableDebt r.averageStableRate amount rate = .ok averageStableRate := by
  simp only [mintStableDebt, bind_eq_ok, add_eq_ok] at h
  obtain ⟨average, haverage, debt, hdebt, h⟩ := h
  cases h
  exact ⟨average, debt, rfl, hdebt, haverage⟩

/-- the average that a removal of stable debt starts from -/
def averagedDebt (r : Reserve) : AveragedDebt := ⟨r.totalStableDebt, r.averageStableRate⟩

theorem burnStableDebt_spec {r s : Reserve} {amount rate : UInt256} {now : Nat}
    (h : r.burnStableDebt amount rate now = .ok s) :
    ∃ rest : AveragedDebt, r.averagedDebt.remove amount rate = .ok rest ∧
      s = { r with averageStableRate := rest.rate, totalStableDebt := rest.debt, principalStableDebt := rest.debt,
                   stableDebtUpdated := now } := by
  obtain ⟨rest, hr, h⟩ := bind_eq_ok.1 h
  cases h
  exact ⟨rest, hr, rfl⟩

/-! ## Supply -/

theorem mintSupply_spec {r s : Reserve} {scaled : UInt256} (h : r.mintSupply scaled = .ok s) :
    ∃ scaledSupply : UInt256, s = { r with scaledSupply } ∧
      scaledSupply.toNat = r.scaledSupply.toNat + scaled.toNat := by
  obtain ⟨minted, hm, h⟩ := bind_eq_ok.1 h
  cases h
  exact ⟨minted, rfl, add_eq_ok.1 hm⟩

theorem burnSupply_spec {r s : Reserve} {scaled : UInt256} (h : r.burnSupply scaled = .ok s) :
    ∃ scaledSupply : UInt256, s = { r with scaledSupply } ∧
      scaledSupply.toNat + scaled.toNat = r.scaledSupply.toNat := by
  obtain ⟨burnt, hb, h⟩ := bind_eq_ok.1 h
  cases h
  have := sub_eq_ok.1 hb
  exact ⟨burnt, rfl, by omega⟩

theorem mintUnbacked_spec {r s : Reserve} {amount : UInt256} (h : r.mintUnbacked amount = .ok s) :
    ∃ unbacked : UInt256, s = { r with unbacked } ∧ unbacked.toNat = r.unbacked.toNat + amount.toNat := by
  obtain ⟨minted, hm, h⟩ := bind_eq_ok.1 h
  cases h
  exact ⟨minted, rfl, add_eq_ok.1 hm⟩

theorem burnUnbacked_spec {r s : Reserve} {amount : UInt256} (h : r.burnUnbacked amount = .ok s) :
    ∃ unbacked : UInt256, s = { r with unbacked } ∧ unbacked.toNat + amount.toNat = r.unbacked.toNat := by
  obtain ⟨burnt, hb, h⟩ := bind_eq_ok.1 h
  cases h
  have := sub_eq_ok.1 hb
  exact ⟨burnt, rfl, by omega⟩

/-! ## Lump sums -/

theorem distribute_spec {r s : Reserve} {amount : UInt256} (h : r.distribute amount = .ok s) :
    ∃ liquidityIndex : UInt256, s = { r with liquidityIndex } ∧ r.liquidityIndex.toNat ≤ liquidityIndex.toNat := by
  unfold distribute at h
  split at h
  · cases h
    exact ⟨_, rfl, le_rfl⟩
  · simp only [bind_eq_ok] at h
    obtain ⟨_, _, _, _, _, _, ratio, _, growth, hgrowth, index, hindex, h⟩ := h
    cases h
    rw [add_eq_ok, toNat_oneRay] at hgrowth
    exact ⟨index, rfl, le_rayMul hindex (by omega)⟩

theorem collect_spec {r s : Reserve} {fee : SplitFee} (h : r.collect fee = .ok s) :
    ∃ liquidityIndex treasuryScaled : UInt256, s = { r with liquidityIndex, treasuryScaled } ∧
      r.liquidityIndex.toNat ≤ liquidityIndex.toNat ∧ r.treasuryScaled.toNat ≤ treasuryScaled.toNat := by
  obtain ⟨_, h1, h⟩ := bind_eq_ok.1 h
  obtain ⟨index, rfl, hindex⟩ := distribute_spec h1
  simp only [creditTreasury, bind_eq_ok, add_eq_ok] at h
  obtain ⟨scaled, _, treasury, htreasury, h⟩ := h
  cases h
  exact ⟨index, treasury, rfl, hindex, htreasury ▸ Nat.le_add_right _ _⟩

/-! ## Refusals -/

variable {S : Fault → Prop}

theorem failsOnly_creditAt (ho : S .overflow) (r : Reserve) (amount : UInt256) {index : UInt256}
    (hi : index.toNat ≠ 0) : FailsOnly S (r.creditAt amount index) :=
  failsOnly_ite (fun _ => failsOnly_pure _) fun _ =>
    (failsOnly_rayDiv ho _ hi).bind fun _ _ => failsOnly_add ho _ _

/-- the debt index is revalued upwards and the stable debt grows with time, so the interest is never negative -/
theorem failsOnly_advance (ho : S .overflow) {r : Reserve} (hi : r.liquidityIndex.toNat ≠ 0) {now : Nat}
    (hle : r.lastUpdate ≤ now) (hb : ¬ r.stableDebtUpdated ≤ r.lastUpdate → S .badRequest) :
    FailsOnly S (r.advance now) := by
  have hb' : ¬ r.stableDebtUpdated ≤ now → S .badRequest := fun hlate => hb fun hu => hlate (hu.trans hle)
  apply (failsOnly_supplyIndexAt ho (absurd hle) _ _).bind
  intro index hindex
  refine FailsOnly.bind (failsOnly_ite (fun _ => failsOnly_pure _) fun _ => failsOnly_debtIndexAt ho (absurd hle) _ _)
    fun debtIndex hdebtIndex => ?_
  apply (failsOnly_rayMul ho _ _).bind
  intro variableBefore hvb
  apply (failsOnly_rayMul ho _ _).bind
  intro variableDebt hv
  apply (failsOnly_stableDebtAt ho hb _ _).bind
  intro stableBefore hsb
  apply (failsOnly_stableDebtAt ho hb' _ _).bind
  intro stableDebt hsd
  apply (failsOnly_add ho _ _).bind
  intro owed howed
  apply (failsOnly_add ho _ _).bind
  intro owedBefore howedBefore
  have hvariable : variableBefore.toNat ≤ variableDebt.toNat := by
    rw [toNat_rayMul hvb, toNat_rayMul hv]
    exact halfUp_mono (Nat.mul_le_mul_left _ (le_debtIndexNow hdebtIndex)) _
  have hstable : stableBefore.toNat ≤ stableDebt.toNat := stableDebtAt_mono hsb hsd hle
  rw [add_eq_ok] at howed howedBefore
  refine (failsOnly_sub (by omega)).bind fun _ _ => (failsOnly_percentMul ho _ _).bind fun _ _ => ?_
  have hpos : index.toNat ≠ 0 := by
    have := le_supplyIndexAt hindex
    omega
  exact (failsOnly_creditAt ho r _ hpos).bind fun _ _ => failsOnly_pure _

/-- a time before the last update is refused, and so would be stable debt from after it -/
theorem failsOnly_accrue (ho : S .overflow) {r : Reserve} (hi : r.liquidityIndex.toNat ≠ 0) {now : Nat}
    (hb : ¬ (r.stableDebtUpdated ≤ r.lastUpdate ∧ r.lastUpdate ≤ now) → S .badRequest) :
    FailsOnly S (r.accrue now) := by
  apply (failsOnly_require fun hlate => hb fun h => hlate h.2).bind
  intro _ hle
  exact failsOnly_ite (fun _ => failsOnly_pure _) fun _ =>
    failsOnly_advance ho hi (require_eq_ok.1 hle) fun hlate => hb fun h => hlate h.1

theorem failsOnly_revalueVariableDebt (ho : S .overflow) (r : Reserve) : FailsOnly S r.revalueVariableDebt :=
  (failsOnly_rayMul ho _ _).bind fun _ _ => failsOnly_pure _

theorem failsOnly_refresh (ho : S .overflow) {r : Reserve} {curve : RateCurve} (hc : curve.Bends)
    (hf : r.listing.reserveFactor ≤ hundredPercent) {added taken : UInt256}
    (h : taken.toNat ≤ r.available.toNat + added.toNat) : FailsOnly S (r.refresh curve added taken) := by
  unfold refresh Stages.run refreshStages
  simp only [List.foldlM_cons, List.foldlM_nil, bind_pure]
  refine FailsOnly.bind ?_ fun moved hm => FailsOnly.bind ?_ fun counted hk =>
    FailsOnly.bind (failsOnly_revalueVariableDebt ho counted) fun revalued hv => ?_
  · refine (failsOnly_add ho _ _).bind fun held hheld => FailsOnly.bind (failsOnly_sub ?_) fun _ _ => failsOnly_pure _
    rw [add_eq_ok.1 hheld]
    exact h
  · exact (failsOnly_add ho _ _).bind fun _ _ => failsOnly_pure _
  · simp only [moveLiquidity, recountLiquidity, revalueVariableDebt, bind_eq_ok] at hm hk hv
    obtain ⟨_, _, _, _, hm⟩ := hm
    cases hm
    obtain ⟨_, _, hk⟩ := hk
    cases hk
    obtain ⟨_, _, hv⟩ := hv
    cases hv
    exact (RateCurve.failsOnly_rates ho hc hf).bind fun _ _ => failsOnly_pure _

theorem failsOnly_scaleSupply (ho : S .overflow) {r : Reserve} (hi : r.liquidityIndex.toNat ≠ 0) (amount : UInt256) :
    FailsOnly S (r.scaleSupply amount) :=
  failsOnly_rayDiv ho _ hi

theorem failsOnly_scaleDebt (ho : S .overflow) {r : Reserve} (hi : r.debtIndex.toNat ≠ 0) (amount : UInt256) :
    FailsOnly S (r.scaleDebt amount) :=
  failsOnly_rayDiv ho _ hi

theorem failsOnly_mintVariableDebt (ho : S .overflow) (scaled : UInt256) (r : Reserve) :
    FailsOnly S (r.mintVariableDebt scaled) := by
  unfold mintVariableDebt Stages.run mintVariableStages
  simp only [List.foldlM_cons, List.foldlM_nil, bind_pure]
  exact FailsOnly.bind ((failsOnly_add ho _ _).bind fun _ _ => failsOnly_pure _) fun minted _ =>
    failsOnly_revalueVariableDebt ho minted

theorem failsOnly_burnVariableDebt (ho : S .overflow) (scaled : UInt256) (r : Reserve) :
    FailsOnly S (r.burnVariableDebt scaled) := by
  unfold burnVariableDebt Stages.run burnVariableStages
  simp only [List.foldlM_cons, List.foldlM_nil, bind_pure]
  exact FailsOnly.bind (failsOnly_ok _) fun burnt _ => failsOnly_revalueVariableDebt ho burnt

theorem failsOnly_mintStableDebt (ho : S .overflow) (amount rate : UInt256) (now : Nat) (r : Reserve) :
    FailsOnly S (r.mintStableDebt amount rate now) :=
  (failsOnly_blendedRate ho _ _ _ _).bind fun _ _ => (failsOnly_add ho _ _).bind fun _ _ => failsOnly_pure _

theorem failsOnly_burnStableDebt (ho : S .overflow) (amount rate : UInt256) (now : Nat) (r : Reserve) :
    FailsOnly S (r.burnStableDebt amount rate now) :=
  (AveragedDebt.failsOnly_remove ho _ _ _).bind fun _ _ => failsOnly_pure _

theorem failsOnly_mintSupply (ho : S .overflow) (scaled : UInt256) (r : Reserve) : FailsOnly S (r.mintSupply scaled) :=
  (failsOnly_add ho _ _).bind fun _ _ => failsOnly_pure _

theorem failsOnly_burnSupply {r : Reserve} {scaled : UInt256} (h : scaled.toNat ≤ r.scaledSupply.toNat) :
    FailsOnly S (r.burnSupply scaled) :=
  (failsOnly_sub h).bind fun _ _ => failsOnly_pure _

theorem failsOnly_mintUnbacked (ho : S .overflow) (amount : UInt256) (r : Reserve) :
    FailsOnly S (r.mintUnbacked amount) :=
  (failsOnly_add ho _ _).bind fun _ _ => failsOnly_pure _

theorem failsOnly_burnUnbacked {r : Reserve} {amount : UInt256} (h : amount.toNat ≤ r.unbacked.toNat) :
    FailsOnly S (r.burnUnbacked amount) :=
  (failsOnly_sub h).bind fun _ _ => failsOnly_pure _

theorem failsOnly_totalSupply (ho : S .overflow) (r : Reserve) : FailsOnly S r.totalSupply :=
  (failsOnly_rayMul ho _ _).bind fun _ _ => (failsOnly_rayMul ho _ _).bind fun _ _ => failsOnly_add ho _ _

/-- only a market without supply has nobody to hand a lump sum to -/
theorem failsOnly_distribute (ho : S .overflow) {r : Reserve} (hz : r.totalSupply = .ok 0 → S .divisionByZero)
    (amount : UInt256) : FailsOnly S (r.distribute amount) := by
  refine failsOnly_ite (fun _ => failsOnly_pure _) fun _ => ?_
  apply (failsOnly_totalSupply ho r).bind
  intro supply hsupply
  apply (failsOnly_wadToRay ho _).bind
  intro part _
  apply (failsOnly_wadToRay ho _).bind
  intro whole hwhole
  refine FailsOnly.bind ?_ fun _ _ => (failsOnly_add ho _ _).bind fun _ _ =>
    (failsOnly_rayMul ho _ _).bind fun _ _ => failsOnly_pure _
  by_cases hs : supply = 0
  · exact (failsOnly_require fun _ => hz (hs ▸ hsupply)).bind fun _ _ =>
      (failsOnly_fit ho _).bind fun _ _ => failsOnly_pure _
  · exact failsOnly_rayDiv ho _ (wadToRay_ne_zero hwhole fun h => hs (ext h))

theorem failsOnly_collect (ho : S .overflow) {r : Reserve} (hs : r.Sound)
    (hz : r.totalSupply = .ok 0 → S .divisionByZero) (fee : SplitFee) : FailsOnly S (r.collect fee) := by
  apply (failsOnly_distribute ho hz _).bind
  intro next hn
  obtain ⟨index, rfl, hindex⟩ := distribute_spec hn
  have hpos : index.toNat ≠ 0 := by
    have := hs.liquidityIndex_ne_zero
    omega
  refine FailsOnly.bind (failsOnly_rayDiv ho _ hpos) fun _ _ => ?_
  exact (failsOnly_add ho _ _).bind fun _ _ => failsOnly_pure _

end Lending.Reserve
