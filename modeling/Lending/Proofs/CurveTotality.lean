/-
The rate curve gives its rates on accepted settings.

The only thing that can go wrong is an overflow, and for balances and settings of any plausible size nothing overflows:
every operation of the curve keeps its numerator below `10 ^ 76`. Usage and shares are ratios of a part to its whole, so
they stay at most one, and a span above a point that such a ratio has passed is not empty.

Results:
- `exists_excess`: the excess over a point that was passed is a ratio of at most one;
- `rise_le`, `exists_rise`, `exists_stablePremium`: how far a rate rises, on both sides of the bend;
- `exists_blendedRate`: an average lies below any common bound of its two rates;
- `exists_rates`: moderate balances have rates on a moderate curve;
- `rates_total`: what can be refused, what the usage is bounded by, and when nothing is refused.
-/
import Lending.Proofs.CurveShape
import Lending.Proofs.RoundingError

namespace Lending

open UInt256

/-! ## Moderate curves and balances -/

/-- every rate that a curve is given by is at most a hundred -/
structure RateCurve.Moderate (curve : RateCurve) : Prop where
  baseVariable : curve.baseVariable.toNat ≤ 100 * ray
  variableSlope1 : curve.variableSlope1.toNat ≤ 100 * ray
  variableSlope2 : curve.variableSlope2.toNat ≤ 100 * ray
  stableSlope1 : curve.stableSlope1.toNat ≤ 100 * ray
  stableSlope2 : curve.stableSlope2.toNat ≤ 100 * ray
  stableOffset : curve.stableOffset.toNat ≤ 100 * ray
  stableExcessOffset : curve.stableExcessOffset.toNat ≤ 100 * ray

/-- a market of at most a billion billion tokens of 18 decimals, with stable debt at a rate of at most a thousand -/
structure Balances.Moderate (balances : Balances) : Prop where
  stableDebt : balances.stableDebt.toNat ≤ Nat.pow 10 36
  variableDebt : balances.variableDebt.toNat ≤ Nat.pow 10 36
  averageStableRate : balances.averageStableRate.toNat ≤ 1000 * ray
  available : balances.available.toNat ≤ Nat.pow 10 36
  unbacked : balances.unbacked.toNat ≤ Nat.pow 10 36

/-! ## Ratios -/

/-- the ratio of a part to a whole of moderate size -/
theorem UInt256.exists_ratio (part whole : UInt256) (hpos : 0 < whole.toNat) (hle : part.toNat ≤ whole.toNat)
    (hw : whole.toNat ≤ 4 * Nat.pow 10 36) : ∃ ratio, part.rayDiv whole = .ok ratio ∧ ratio.toNat ≤ ray := by
  have hproduct : part.toNat * ray ≤ 4 * Nat.pow 10 36 * ray := Nat.mul_le_mul_right _ (hle.trans hw)
  obtain ⟨ratio, hratio⟩ := exists_rayDiv hpos (hw.trans (by decide)) (hproduct.trans (by decide))
  refine ⟨ratio, hratio, ?_⟩
  rw [toNat_rayDiv hratio]
  exact halfUp_ratio_le hpos ray hle

/-- the part of the span above a point by which a ratio of at most one has passed it -/
theorem RateCurve.exists_excess {point ratio : UInt256} (hp : point < ratio) (hr : ratio.toNat ≤ ray) :
    ∃ excess, (ratio.monus point).rayDiv (oneRay.wrapSub point) = .ok excess ∧ excess.toNat ≤ 1 * ray := by
  have hspan := spans_of_lt hp hr
  have hray : ray ≤ 4 * Nat.pow 10 36 := by decide
  have hle := hspan.add_eq
  rw [Nat.one_mul]
  exact exists_ratio _ _ hspan.pos (excess_le hp hr) (by omega)

theorem Usage.exists_of {debt available unbacked : UInt256} (hd : debt.toNat ≤ 2 * Nat.pow 10 36)
    (ha : available.toNat ≤ Nat.pow 10 36) (hu : unbacked.toNat ≤ Nat.pow 10 36) :
    ∃ usage, Usage.of debt available unbacked = .ok usage := by
  unfold Usage.of
  split
  · exact ⟨_, rfl⟩
  · next hne =>
    have hpos := toNat_pos hne
    obtain ⟨backed, hbacked, hbackedValue⟩ :=
      exists_add (a := available) (b := debt) ((Nat.add_le_add ha hd).trans (by decide))
    obtain ⟨whole, hwhole, hwholeValue⟩ := exists_add (a := backed) (b := unbacked)
      ((Nat.add_le_add (hbackedValue.le.trans (Nat.add_le_add ha hd)) hu).trans (by decide))
    obtain ⟨borrow, hborrow, _⟩ := exists_ratio debt backed (by omega) (by omega) (by omega)
    obtain ⟨supply, hsupply, _⟩ := exists_ratio debt whole (by omega) (by omega) (by omega)
    have hle : supply ≤ borrow := by
      rw [le_iff, toNat_rayDiv hborrow, toNat_rayDiv hsupply]
      exact halfUp_anti _ (by omega) (by omega)
    simp only [bind_eq_ok, require_eq_ok]
    exact ⟨_, backed, hbacked, borrow, hborrow, whole, hwhole, supply, hsupply, (), hle, rfl⟩

theorem Balances.exists_stableShare (balances : Balances) {debt : UInt256}
    (hle : balances.stableDebt.toNat ≤ debt.toNat) (hd : debt.toNat ≤ 2 * Nat.pow 10 36) :
    ∃ share, balances.stableShare debt = .ok share ∧ share.toNat ≤ ray := by
  unfold Balances.stableShare
  split
  · exact ⟨0, rfl, Nat.zero_le _⟩
  · next hne => exact exists_ratio _ _ (toNat_pos hne) hle (by omega)

/-! ## Averages -/

theorem exists_rateWeight {debt rate : UInt256} (hd : debt.toNat ≤ Nat.pow 10 36) (hr : rate.toNat ≤ 1000 * ray) :
    ∃ weight, rateWeight debt rate = .ok weight ∧ weight.toNat ≤ 1000 * (debt.toNat * raysPerWad) := by
  have hscaledLe : debt.toNat * raysPerWad ≤ Nat.pow 10 36 * raysPerWad := Nat.mul_le_mul_right _ hd
  obtain ⟨scaled, hscaled, hvalue⟩ := exists_fit (hscaledLe.trans (by decide))
  have hproduct : rate.toNat * scaled.toNat ≤ 1000 * ray * scaled.toNat := Nat.mul_le_mul_right _ hr
  have hbound : 1000 * ray * scaled.toNat ≤ 1000 * ray * (Nat.pow 10 36 * raysPerWad) :=
    Nat.mul_le_mul_left _ (hvalue.le.trans hscaledLe)
  obtain ⟨weight, hweight⟩ := exists_rayMul ((hproduct.trans hbound).trans (by decide))
  refine ⟨weight, bind_eq_ok.2 ⟨scaled, hscaled, hweight⟩, ?_⟩
  rw [toNat_rayMul hweight, ← hvalue]
  have := ray_pos
  exact halfUp_le ray_pos (by linarith)

/-- an average of two rates of at most a thousand is at most a thousand -/
theorem exists_blendedRate {debt rate other otherRate : UInt256} (hd : debt.toNat ≤ Nat.pow 10 36)
    (ho : other.toNat ≤ Nat.pow 10 36) (hr : rate.toNat ≤ 1000 * ray) (hs : otherRate.toNat ≤ 1000 * ray) :
    ∃ average, blendedRate debt rate other otherRate = .ok average ∧ average.toNat ≤ 1000 * ray := by
  obtain ⟨total, htotal, htotalValue⟩ := exists_add (a := debt) (b := other) ((Nat.add_le_add hd ho).trans (by decide))
  by_cases hzero : total = 0
  · exact ⟨0, bind_eq_ok.2 ⟨total, htotal, if_pos hzero⟩, Nat.zero_le _⟩
  obtain ⟨first, hfirst, hfirstLe⟩ := exists_rateWeight hd hr
  obtain ⟨second, hsecond, hsecondLe⟩ := exists_rateWeight ho hs
  -- each weight is at most a thousand times its debt, so both together are at most a thousand times the whole
  have hweightLe : first.toNat + second.toNat ≤ 1000 * (total.toNat * raysPerWad) := by
    rw [htotalValue]
    linarith
  have hscaledLe : total.toNat * raysPerWad ≤ (Nat.pow 10 36 + Nat.pow 10 36) * raysPerWad :=
    Nat.mul_le_mul_right _ (htotalValue.le.trans (Nat.add_le_add hd ho))
  have hsmall : 1000 * (total.toNat * raysPerWad) ≤ 1000 * ((Nat.pow 10 36 + Nat.pow 10 36) * raysPerWad) :=
    Nat.mul_le_mul_left _ hscaledLe
  obtain ⟨weight, hweight, hweightValue⟩ := exists_add ((hweightLe.trans hsmall).trans (by decide))
  obtain ⟨scaled, hscaled, hscaledValue⟩ := exists_fit (hscaledLe.trans (by decide))
  rw [← hscaledValue] at hweightLe hscaledLe hsmall
  rw [← hweightValue] at hweightLe
  have hpos : 0 < scaled.toNat := hscaledValue ▸ Nat.mul_pos (toNat_pos hzero) (by decide)
  have hnumerator : weight.toNat * ray ≤ 1000 * ((Nat.pow 10 36 + Nat.pow 10 36) * raysPerWad) * ray :=
    Nat.mul_le_mul_right _ (hweightLe.trans hsmall)
  obtain ⟨average, haverage⟩ :=
    exists_rayDiv hpos (hscaledLe.trans (by decide)) (hnumerator.trans (by decide))
  refine ⟨average, bind_eq_ok.2 ⟨total, htotal, ?_⟩, ?_⟩
  · rw [if_neg hzero]
    simp only [bind_eq_ok]
    exact ⟨first, hfirst, second, hsecond, weight, hweight, scaled, hscaled, haverage⟩
  · rw [toNat_rayDiv haverage]
    have := Nat.mul_le_mul_right ray hweightLe
    exact halfUp_le hpos (by linarith)

namespace RateCurve

variable {curve : RateCurve} {balances : Balances} {slope1 slope2 usage share x : UInt256}

/-! ## Rises -/

/-- on neither side of the bend does a rate rise by more than both slopes and one -/
theorem rise_le (hc : curve.Bends) (hone : usage.toNat ≤ ray) (h : curve.rise slope1 slope2 usage = .ok x) :
    x.toNat ≤ slope1.toNat + slope2.toNat + ray := by
  by_cases hu : curve.optimalUsage < usage
  · have := (rise_above_bounds hu hone h).2
    omega
  · have hbelow := rise_below_le hc (Nat.le_of_not_lt hu) h
    have hpos := toNat_pos hc.pos
    have hgap : ray + curve.optimalUsage.toNat ≤ 2 * curve.optimalUsage.toNat * ray := by
      have := Nat.mul_le_mul_right ray hpos
      have := hc.le
      linarith
    have hle : 2 * curve.optimalUsage.toNat * x.toNat ≤ 2 * curve.optimalUsage.toNat * (slope1.toNat + ray) := by
      linarith
    have := Nat.le_of_mul_le_mul_left hle (by omega)
    omega

theorem exists_rise (hc : curve.Bends) (hone : usage.toNat ≤ ray) (h1 : slope1.toNat ≤ 100 * ray)
    (h2 : slope2.toNat ≤ 100 * ray) :
    ∃ x, curve.rise slope1 slope2 usage = .ok x ∧ x.toNat ≤ 201 * ray := by
  have hexists : ∃ x, curve.rise slope1 slope2 usage = .ok x := by
    unfold rise
    split
    · next hu =>
      obtain ⟨excess, hexcess, hexcessLe⟩ := exists_excess hu hone
      obtain ⟨steep, hsteep, hsteepLe⟩ := exists_rayMul_le h2 hexcessLe (by decide)
      obtain ⟨x, hx, _⟩ := exists_add (a := slope1) (b := steep) ((Nat.add_le_add h1 hsteepLe).trans (by decide))
      exact ⟨x, bind_eq_ok.2 ⟨excess, hexcess, bind_eq_ok.2 ⟨steep, hsteep, hx⟩⟩⟩
    · obtain ⟨part, hpart, hpartLe⟩ := exists_rayMul_le (b := usage) (m := 1) h1 (by omega) (by decide)
      have hbend : curve.optimalUsage.toNat ≤ Nat.pow 10 76 := hc.le.trans (by decide)
      obtain ⟨x, hx⟩ := exists_rayDiv (toNat_pos hc.pos) hbend ((Nat.mul_le_mul_right ray hpartLe).trans (by decide))
      exact ⟨x, bind_eq_ok.2 ⟨part, hpart, hx⟩⟩
  obtain ⟨x, hx⟩ := hexists
  have := rise_le hc hone hx
  exact ⟨x, hx, by omega⟩

theorem exists_stablePremium (hone : share.toNat ≤ ray)
    (h : curve.stableExcessOffset.toNat ≤ 100 * ray) :
    ∃ x, curve.stablePremium share = .ok x ∧ x.toNat ≤ 100 * ray := by
  unfold stablePremium
  split
  · next hs =>
    obtain ⟨excess, hexcess, hexcessLe⟩ := exists_excess hs hone
    obtain ⟨x, hx, hxLe⟩ := exists_rayMul_le h hexcessLe (by decide)
    exact ⟨x, bind_eq_ok.2 ⟨excess, hexcess, hx⟩, hxLe⟩
  · exact ⟨0, rfl, Nat.zero_le _⟩

/-! ## The rates -/

theorem exists_variableRate (hc : curve.Bends) (hcurve : curve.Moderate) (hone : usage.toNat ≤ ray) :
    ∃ rise rate, curve.rise curve.variableSlope1 curve.variableSlope2 usage = .ok rise ∧
      curve.baseVariable.add rise = .ok rate ∧ rate.toNat ≤ 1000 * ray := by
  obtain ⟨rise, hrise, hriseLe⟩ := exists_rise hc hone hcurve.variableSlope1 hcurve.variableSlope2
  have hrateLe : curve.baseVariable.toNat + rise.toNat ≤ 1000 * ray := by
    have := hcurve.baseVariable
    omega
  obtain ⟨rate, hrate, hvalue⟩ := exists_add (hrateLe.trans (by decide))
  exact ⟨rise, rate, hrise, hrate, hvalue.le.trans hrateLe⟩

theorem exists_stableRate (hc : curve.Bends) (hcurve : curve.Moderate) (hone : usage.toNat ≤ ray)
    (hshare : share.toNat ≤ ray) :
    ∃ base rise risen premium rate : UInt256, curve.baseStable = .ok base ∧
      curve.rise curve.stableSlope1 curve.stableSlope2 usage = .ok rise ∧ base.add rise = .ok risen ∧
      curve.stablePremium share = .ok premium ∧ risen.add premium = .ok rate := by
  obtain ⟨base, hbase, hbaseValue⟩ := exists_add (a := curve.variableSlope1) (b := curve.stableOffset)
    ((Nat.add_le_add hcurve.variableSlope1 hcurve.stableOffset).trans (by decide))
  have hbaseLe := hbaseValue.le.trans (Nat.add_le_add hcurve.variableSlope1 hcurve.stableOffset)
  obtain ⟨rise, hrise, hriseLe⟩ := exists_rise hc hone hcurve.stableSlope1 hcurve.stableSlope2
  obtain ⟨risen, hrisen, hrisenValue⟩ := exists_add ((Nat.add_le_add hbaseLe hriseLe).trans (by decide))
  have hrisenLe := hrisenValue.le.trans (Nat.add_le_add hbaseLe hriseLe)
  obtain ⟨premium, hpremium, hpremiumLe⟩ := exists_stablePremium hshare hcurve.stableExcessOffset
  obtain ⟨rate, hrate, _⟩ := exists_add ((Nat.add_le_add hrisenLe hpremiumLe).trans (by decide))
  exact ⟨base, rise, risen, premium, rate, hbase, hrise, hrisen, hpremium, hrate⟩

/-- what borrowers pay together, and what is left of it for suppliers -/
theorem exists_liquidityRate {rate supply : UInt256} (hb : balances.Moderate) (hr : rate.toNat ≤ 1000 * ray)
    (hone : supply.toNat ≤ ray) :
    ∃ paid earned liquidityRate,
      overallRate balances.stableDebt balances.variableDebt rate balances.averageStableRate = .ok paid ∧
      paid.rayMul supply = .ok earned ∧
      earned.percentMul (hundredPercent - balances.reserveFactor) = .ok liquidityRate := by
  obtain ⟨paid, hpaid, hpaidLe⟩ := exists_blendedRate hb.variableDebt hb.stableDebt hr hb.averageStableRate
  obtain ⟨earned, hearned, hearnedLe⟩ := exists_rayMul_le (b := supply) (m := 1) hpaidLe (by omega) (by decide)
  have hkept : earned.toNat * (hundredPercent - balances.reserveFactor) ≤ 1000 * ray * 1 * hundredPercent :=
    Nat.mul_le_mul hearnedLe (Nat.sub_le _ _)
  obtain ⟨liquidityRate, hliquidity⟩ := exists_percentMul (hkept.trans (by decide))
  exact ⟨paid, earned, liquidityRate, hpaid, hearned, hliquidity⟩

/-- **Moderate balances have rates on a moderate curve.** -/
theorem exists_rates (hc : curve.Bends) (hcurve : curve.Moderate) (hb : balances.Moderate)
    (hf : balances.reserveFactor ≤ hundredPercent) : ∃ rates, curve.rates balances = .ok rates := by
  have hdebtLe : balances.stableDebt.toNat + balances.variableDebt.toNat ≤ 2 * Nat.pow 10 36 := by
    have := hb.stableDebt
    have := hb.variableDebt
    omega
  obtain ⟨debt, hdebt, hdebtValue⟩ := exists_add (hdebtLe.trans (by decide))
  rw [← hdebtValue] at hdebtLe
  obtain ⟨usage, husage⟩ := Usage.exists_of hdebtLe hb.available hb.unbacked
  obtain ⟨hsupply, hborrow⟩ := Usage.of_bounds husage
  obtain ⟨share, hshare, hshareLe⟩ := balances.exists_stableShare (by omega) hdebtLe
  obtain ⟨base, stableRise, risen, premium, stableRate, hbase, hstableRise, hrisen, hpremium, hstable⟩ :=
    exists_stableRate hc hcurve hborrow hshareLe
  obtain ⟨variableRise, variableRate, hvariableRise, hvariable, hvariableLe⟩ := exists_variableRate hc hcurve hborrow
  obtain ⟨paid, earned, liquidityRate, hpaid, hearned, hliquidity⟩ :=
    exists_liquidityRate hb hvariableLe (hsupply.trans hborrow)
  simp only [rates, bind_eq_ok, require_eq_ok]
  exact ⟨_, debt, hdebt, usage, husage, share, hshare, base, hbase, stableRise, hstableRise, risen, hrisen,
    variableRise, hvariableRise, variableRate, hvariable, premium, hpremium, stableRate, hstable, paid, hpaid,
    earned, hearned, (), hf, liquidityRate, hliquidity, rfl⟩

/-- **The rates of a market are there unless a number overflows.** The supply usage is at most the borrow usage and that
at most one. The two divisions by the span above the bend and above the optimal stable share, which are made only when
usage or share is higher than that, never divide by zero or by a span that has gone around. Nothing overflows when the
curve and the balances are moderate. -/
theorem rates_total {config : ReserveConfig} (hv : config.Valid) (balances : Balances)
    (hf : balances.reserveFactor ≤ hundredPercent) :
    FailsOnly (· = .overflow) (config.curve.rates balances) ∧
      (∀ rates, config.curve.rates balances = .ok rates →
        rates.usage.supply ≤ rates.usage.borrow ∧ rates.usage.borrow.toNat ≤ ray) ∧
      (∀ debt, balances.stableDebt.add balances.variableDebt = .ok debt →
        (∀ usage, Usage.of debt balances.available balances.unbacked = .ok usage →
          config.curve.optimalUsage < usage.borrow →
          Spans config.curve.optimalUsage config.curve.excessUsageSpan) ∧
        (∀ share, balances.stableShare debt = .ok share → config.curve.optimalStableShare < share →
          Spans config.curve.optimalStableShare config.curve.excessStableSpan)) ∧
      (config.curve.Moderate → balances.Moderate → ∃ rates, config.curve.rates balances = .ok rates) := by
  refine ⟨failsOnly_rates (S := (· = .overflow)) rfl hv.bends hf, fun rates hrates => ?_,
    fun debt hdebt => ⟨?_, ?_⟩, fun hcurve hb => exists_rates hv.bends hcurve hb hf⟩
  · obtain ⟨_, _, _, _, _, husage, _⟩ := rates_spec hrates
    exact Usage.of_bounds husage
  · intro usage husage hlt
    exact spans_of_lt hlt (Usage.of_bounds husage).2
  · intro share hshare hlt
    rw [add_eq_ok] at hdebt
    exact spans_of_lt hlt (Balances.stableShare_le (by omega) hshare)

end RateCurve

/-- 90 tokens of 100 are lent out, most of them at a stable rate: the usage is above the bend and the stable share above
the optimal one, so both spans are divided by -/
def Sample.mostlyStable : Balances where
  stableDebt := tokens 60
  variableDebt := tokens 30
  averageStableRate := percent 7
  available := tokens 10
  unbacked := tokens 5
  reserveFactor := 1000

theorem RateCurve.rates_total_sample :
    (∃ rates, Sample.curve.rates Sample.mostlyStable = .ok rates ∧ rates.usage.supply ≤ rates.usage.borrow ∧
      rates.usage.borrow.toNat ≤ ray) ∧
      Spans Sample.curve.optimalUsage Sample.curve.excessUsageSpan ∧
      Spans Sample.curve.optimalStableShare Sample.curve.excessStableSpan := by
  have hv : Sample.reserveConfig.Valid := by decide
  have hcurve : Sample.curve.Moderate := by constructor <;> decide
  have hb : Sample.mostlyStable.Moderate := by constructor <;> decide
  obtain ⟨debt, hdebt, ⟨usage, husage, habove⟩, ⟨share, hshare, hstable⟩⟩ :
      ∃ debt, Sample.mostlyStable.stableDebt.add Sample.mostlyStable.variableDebt = .ok debt ∧
        (∃ usage, Usage.of debt Sample.mostlyStable.available Sample.mostlyStable.unbacked = .ok usage ∧
          Sample.curve.optimalUsage < usage.borrow) ∧
        ∃ share, Sample.mostlyStable.stableShare debt = .ok share ∧ Sample.curve.optimalStableShare < share := by
    decide +kernel
  obtain ⟨_, hbounds, hspans, hexists⟩ := rates_total hv Sample.mostlyStable (by decide)
  obtain ⟨rates, hrates⟩ := hexists hcurve hb
  obtain ⟨husageSpan, hstableSpan⟩ := hspans debt hdebt
  exact ⟨⟨rates, hrates, hbounds rates hrates⟩, husageSpan usage husage habove, hstableSpan share hshare hstable⟩

end Lending
