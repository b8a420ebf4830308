/-
The rate curve and the averaged stable rate cannot fail on accepted settings.

Results:
- `Usage.of_bounds`: the supply usage is at most the borrow usage, and that is at most one;
- `AveragedDebt.remove_eq_ok`: what a removal leaves, with the two ways in which it clears the whole debt;
- `RateCurve.failsOnly_rates`: on a curve with its bend in `(0, 1]` and its optimal stable share in `[0, 1]`, and with a
  reserve factor of at most one hundred percent, the rates can be refused for an overflow only.
-/
import Lending.Config
import Lending.Proofs.Causes

namespace Lending

open UInt256

variable {S : Fault → Prop}

/-! ## Averages -/

theorem failsOnly_rateWeight (ho : S .overflow) (debt rate : UInt256) : FailsOnly S (rateWeight debt rate) :=
  (failsOnly_wadToRay ho debt).bind fun scaled _ => failsOnly_rayMul ho rate scaled

theorem toNat_wadToRay {a b : UInt256} (h : a.wadToRay = .ok b) : b.toNat = a.toNat * raysPerWad := fit_eq_ok.1 h

theorem wadToRay_ne_zero {a b : UInt256} (h : a.wadToRay = .ok b) (ha : a.toNat ≠ 0) : b.toNat ≠ 0 := by
  rw [toNat_wadToRay h]
  exact Nat.mul_ne_zero ha (by decide)

theorem failsOnly_blendedRate (ho : S .overflow) (debt rate other otherRate : UInt256) :
    FailsOnly S (blendedRate debt rate other otherRate) := by
  refine (failsOnly_add ho _ _).bind fun total _ => failsOnly_ite (fun _ => failsOnly_pure _) fun hne => ?_
  refine (failsOnly_rateWeight ho _ _).bind fun _ _ => (failsOnly_rateWeight ho _ _).bind fun _ _ => ?_
  apply (failsOnly_add ho _ _).bind
  intro weight _
  apply (failsOnly_wadToRay ho _).bind
  intro scaled hs
  exact failsOnly_rayDiv ho weight (wadToRay_ne_zero hs fun h => hne (ext h))

/-- the average of no debt is zero, and that of any other divides the weights by the debt -/
theorem blendedRate_eq_ok {debt rate other otherRate average : UInt256}
    (h : blendedRate debt rate other otherRate = .ok average) :
    ∃ total, debt.add other = .ok total ∧ ((total = 0 ∧ average = 0) ∨
      (total ≠ 0 ∧ ∃ first second weight scaled, rateWeight debt rate = .ok first ∧
        rateWeight other otherRate = .ok second ∧ first.add second = .ok weight ∧ total.wadToRay = .ok scaled ∧
        weight.rayDiv scaled = .ok average)) := by
  obtain ⟨total, ht, h⟩ := bind_eq_ok.1 h
  refine ⟨total, ht, ?_⟩
  split at h
  · next h0 =>
    cases h
    exact .inl ⟨h0, rfl⟩
  · next hne =>
    simp only [bind_eq_ok] at h
    obtain ⟨first, hf, second, hs, weight, hw, scaled, hc, h⟩ := h
    exact .inr ⟨hne, first, second, weight, scaled, hf, hs, hw, hc, h⟩

/-- a removal clears the debt when it is as large or as heavy as the whole, and otherwise leaves the exact rest, at the
rate that the weight left makes of it -/
theorem AveragedDebt.remove_eq_ok {whole rest : AveragedDebt} {amount rate : UInt256}
    (h : whole.remove amount rate = .ok rest) :
    (whole.debt ≤ amount ∧ rest = ⟨0, 0⟩) ∨
    (amount < whole.debt ∧ ∃ weight removed, rateWeight whole.debt whole.rate = .ok weight ∧
      rateWeight amount rate = .ok removed ∧
      ((weight ≤ removed ∧ rest = ⟨0, 0⟩) ∨ (removed < weight ∧ rest.debt = whole.debt.monus amount ∧
        ∃ scaled, rest.debt.wadToRay = .ok scaled ∧ (weight.monus removed).rayDiv scaled = .ok rest.rate))) := by
  unfold AveragedDebt.remove at h
  split at h
  · next hle => cases h; exact .inl ⟨hle, rfl⟩
  · next hlt =>
    obtain ⟨weight, hw, h⟩ := bind_eq_ok.1 h
    obtain ⟨removed, hr, h⟩ := bind_eq_ok.1 h
    refine .inr ⟨Nat.lt_of_not_le hlt, weight, removed, hw, hr, ?_⟩
    split at h
    · next hle => cases h; exact .inl ⟨hle, rfl⟩
    · next hlt =>
      obtain ⟨scaled, hscaled, h⟩ := bind_eq_ok.1 h
      obtain ⟨average, haverage, h⟩ := bind_eq_ok.1 h
      cases h
      exact .inr ⟨Nat.lt_of_not_le hlt, rfl, scaled, hscaled, haverage⟩

theorem AveragedDebt.failsOnly_remove (ho : S .overflow) (whole : AveragedDebt) (amount rate : UInt256) :
    FailsOnly S (whole.remove amount rate) := by
  refine failsOnly_ite (fun _ => failsOnly_pure _) fun hlt => ?_
  apply (failsOnly_rateWeight ho _ _).bind
  intro weight _
  apply (failsOnly_rateWeight ho _ _).bind
  intro removed _
  refine failsOnly_ite (fun _ => failsOnly_pure _) fun _ => ?_
  apply (failsOnly_wadToRay ho _).bind
  intro scaled hs
  have hrest : (whole.debt.monus amount).toNat ≠ 0 := by
    rw [le_iff] at hlt
    rw [toNat_monus]
    omega
  exact (failsOnly_rayDiv ho _ (wadToRay_ne_zero hs hrest)).bind fun _ _ => failsOnly_pure _

/-! ## Usage -/

theorem Usage.of_eq_ok {debt available unbacked : UInt256} {usage : Usage}
    (h : Usage.of debt available unbacked = .ok usage) :
    (debt = 0 ∧ usage = ⟨0, 0⟩) ∨ (debt ≠ 0 ∧ ∃ backed whole, available.add debt = .ok backed ∧
      debt.rayDiv backed = .ok usage.borrow ∧ backed.add unbacked = .ok whole ∧ debt.rayDiv whole = .ok usage.supply ∧
      usage.supply.toNat ≤ usage.borrow.toNat) := by
  unfold Usage.of at h
  split at h
  · next h0 =>
    cases h
    exact .inl ⟨h0, rfl⟩
  · next hne =>
    simp only [bind_eq_ok, require_eq_ok] at h
    obtain ⟨backed, hbacked, borrow, hborrow, whole, hwhole, supply, hsupply, _, hle, h⟩ := h
    cases h
    exact .inr ⟨hne, backed, whole, hbacked, hborrow, hwhole, hsupply, hle⟩

theorem Usage.of_bounds {debt available unbacked : UInt256} {usage : Usage}
    (h : Usage.of debt available unbacked = .ok usage) :
    usage.supply.toNat ≤ usage.borrow.toNat ∧ usage.borrow.toNat ≤ ray := by
  rcases Usage.of_eq_ok h with ⟨_, rfl⟩ | ⟨hne, backed, _, hbacked, hborrow, _, _, hle⟩
  · exact ⟨le_rfl, Nat.zero_le _⟩
  · have hpos : debt.toNat ≠ 0 := mt eq_zero_iff.2 hne
    rw [add_eq_ok] at hbacked
    refine ⟨hle, ?_⟩
    rw [toNat_rayDiv hborrow]
    exact halfUp_ratio_le (by omega) ray (by omega)

theorem Usage.failsOnly_of (ho : S .overflow) (debt available unbacked : UInt256) :
    FailsOnly S (Usage.of debt available unbacked) := by
  refine failsOnly_ite (fun _ => failsOnly_pure _) fun hne => ?_
  have hpos : debt.toNat ≠ 0 := mt eq_zero_iff.2 hne
  apply (failsOnly_add ho _ _).bind
  intro backed hbacked
  rw [add_eq_ok] at hbacked
  apply (failsOnly_rayDiv ho _ (by omega)).bind
  intro borrow hborrow
  apply (failsOnly_add ho _ _).bind
  intro whole hwhole
  rw [add_eq_ok] at hwhole
  apply (failsOnly_rayDiv ho _ (by omega)).bind
  intro supply hsupply
  refine FailsOnly.bind (failsOnly_require fun hlt => absurd ?_ hlt) fun _ _ => failsOnly_pure _
  rw [le_iff, toNat_rayDiv hborrow, toNat_rayDiv hsupply]
  exact halfUp_anti _ (by omega) (by omega)

theorem Balances.stableShare_le {balances : Balances} {debt share : UInt256}
    (hd : balances.stableDebt.toNat ≤ debt.toNat) (h : balances.stableShare debt = .ok share) :
    share.toNat ≤ ray := by
  unfold Balances.stableShare at h
  split at h
  · cases h
    exact Nat.zero_le _
  · next hne =>
    rw [toNat_rayDiv h]
    exact halfUp_ratio_le (toNat_pos hne) ray hd

theorem Balances.failsOnly_stableShare (ho : S .overflow) (balances : Balances) (debt : UInt256) :
    FailsOnly S (balances.stableShare debt) :=
  failsOnly_ite (fun _ => failsOnly_pure _) fun hne => failsOnly_rayDiv ho _ (mt eq_zero_iff.2 hne)

/-! ## The curve -/

namespace RateCurve

/-- the part of the settings' validity that the curve relies on -/
structure Bends (curve : RateCurve) : Prop where
  pos : curve.optimalUsage ≠ 0
  le : curve.optimalUsage.toNat ≤ ray
  share_le : curve.optimalStableShare.toNat ≤ ray

/-- the span above a point that a ratio of at most one has passed is not empty -/
theorem span_ne_zero {point ratio : UInt256} (hp : point.toNat < ratio.toNat) (hr : ratio.toNat ≤ ray) :
    (oneRay.wrapSub point).toNat ≠ 0 := by
  have hle : point ≤ oneRay := Nat.le_trans (Nat.le_of_lt hp) hr
  rw [toNat_wrapSub_of_le hle, toNat_oneRay]
  omega

theorem failsOnly_rise (ho : S .overflow) {curve : RateCurve} (hc : curve.Bends) (slope1 slope2 : UInt256)
    {usage : UInt256} (hu : usage.toNat ≤ ray) : FailsOnly S (curve.rise slope1 slope2 usage) := by
  refine failsOnly_ite (fun hlt => ?_) fun _ => ?_
  · refine (failsOnly_rayDiv ho _ (span_ne_zero hlt hu)).bind fun _ _ => ?_
    exact (failsOnly_rayMul ho _ _).bind fun _ _ => failsOnly_add ho _ _
  · exact (failsOnly_rayMul ho _ _).bind fun _ _ => failsOnly_rayDiv ho _ (mt eq_zero_iff.2 hc.pos)

theorem failsOnly_stablePremium (ho : S .overflow) (curve : RateCurve) {share : UInt256} (hs : share.toNat ≤ ray) :
    FailsOnly S (curve.stablePremium share) := by
  refine failsOnly_ite (fun hlt => ?_) fun _ => failsOnly_pure _
  exact (failsOnly_rayDiv ho _ (span_ne_zero hlt hs)).bind fun _ _ => failsOnly_rayMul ho _ _

/-- **The rates are refused for an overflow only.** -/
theorem failsOnly_rates (ho : S .overflow) {curve : RateCurve} (hc : curve.Bends) {balances : Balances}
    (hf : balances.reserveFactor ≤ hundredPercent) : FailsOnly S (curve.rates balances) := by
  apply (failsOnly_add ho _ _).bind
  intro debt hdebt
  rw [add_eq_ok] at hdebt
  apply (Usage.failsOnly_of ho _ _ _).bind
  intro usage husage
  have hborrow := (Usage.of_bounds husage).2
  apply (balances.failsOnly_stableShare ho debt).bind
  intro share hshare
  have hshare := Balances.stableShare_le (by omega) hshare
  refine (failsOnly_add ho _ _).bind fun _ _ => (failsOnly_rise ho hc _ _ hborrow).bind fun _ _ => ?_
  refine (failsOnly_add ho _ _).bind fun _ _ => (failsOnly_rise ho hc _ _ hborrow).bind fun _ _ => ?_
  refine (failsOnly_add ho _ _).bind fun _ _ => (curve.failsOnly_stablePremium ho hshare).bind fun _ _ => ?_
  refine (failsOnly_add ho _ _).bind fun _ _ => (failsOnly_blendedRate ho _ _ _ _).bind fun _ _ => ?_
  refine (failsOnly_rayMul ho _ _).bind fun _ _ => (failsOnly_require fun h => absurd hf h).bind fun _ _ => ?_
  exact (failsOnly_percentMul ho _ _).bind fun _ _ => failsOnly_pure _

/-- what suppliers earn of what borrowers pay, and at which usage -/
theorem rates_spec {curve : RateCurve} {balances : Balances} {rates : InterestRates}
    (h : curve.rates balances = .ok rates) :
    balances.reserveFactor ≤ hundredPercent ∧ ∃ debt paid earned,
      balances.stableDebt.add balances.variableDebt = .ok debt ∧
      Usage.of debt balances.available balances.unbacked = .ok rates.usage ∧
      overallRate balances.stableDebt balances.variableDebt rates.variableRate balances.averageStableRate = .ok paid ∧
      paid.rayMul rates.usage.supply = .ok earned ∧
      earned.percentMul (hundredPercent - balances.reserveFactor) = .ok rates.liquidityRate := by
  simp only [RateCurve.rates, bind_eq_ok, require_eq_ok] at h
  obtain ⟨debt, hdebt, usage, husage, _, _, _, _, _, _, _, _, _, _, _, _, _, _, _, _, paid, hpaid, earned, hearned, _,
    hfactor, _, hliquidity, h⟩ := h
  cases h
  exact ⟨hfactor, debt, paid, earned, hdebt, husage, hpaid, hearned, hliquidity⟩

end RateCurve

theorem ReserveConfig.Valid.bends {config : ReserveConfig} (h : config.Valid) : config.curve.Bends :=
  ⟨h.bend_pos, h.bend_le, h.share_le⟩

end Lending
