/-
The shape of the rate curve.

Up to its bend a rate rises by a part of the first slope, the slope times the usage over the usage at the bend. Above,
it has risen by all of the first slope and by a part of the second. Both parts are rounded twice, and up to the bend the
first rounding is divided by the usage at the bend, so the two formulas agree there only up to `ray / (2 * bend)` and
half a unit more. On either side of the bend a rate never falls.

Results:
- `rise_climbs`: a higher usage gives no smaller a rise, but for that gap when the bend lies in between;
- `rise_below_le`, `slope_le_rise_bend`, `rise_above_bounds`: where a rise lies on either side and at the bend;
- `rates_shape`: so the rates of a market without stable debt climb with its usage, and the variable rate of any market
  lies where the slopes say.
-/
import Mathlib.Algebra.Order.Ring.Abs
import Lending.Proofs.Rates
import Lending.Sample

namespace Lending

open UInt256

namespace RateCurve

variable {curve : RateCurve} {slope1 slope2 usage later x y : UInt256}

/-! ## What lies above a point -/

/-- the span above `point` has not gone around: it is what is left up to one, and it is not empty -/
structure Spans (point span : UInt256) : Prop where
  pos : 0 < span.toNat
  add_eq : point.toNat + span.toNat = ray

/-- so it is for a point that a ratio of at most one has passed -/
theorem spans_of_lt {point ratio : UInt256} (hp : point < ratio) (hr : ratio.toNat ≤ ray) :
    Spans point (oneRay.wrapSub point) := by
  have hle : point ≤ oneRay := Nat.le_trans (Nat.le_of_lt hp) hr
  refine ⟨Nat.pos_of_ne_zero (span_ne_zero hp hr), ?_⟩
  rw [toNat_wrapSub_of_le hle, toNat_oneRay]
  exact Nat.add_sub_cancel' hle

/-- the excess of such a ratio is a part of the span -/
theorem excess_le {point ratio : UInt256} (hp : point < ratio) (hr : ratio.toNat ≤ ray) :
    (ratio.monus point).toNat ≤ (oneRay.wrapSub point).toNat := by
  have hspan := (spans_of_lt hp hr).add_eq
  rw [toNat_monus]
  omega

/-! ## One rise -/

/-- up to the bend, the rise is the part of the first slope that the usage is of the bend -/
theorem rise_below (hu : usage ≤ curve.optimalUsage) (h : curve.rise slope1 slope2 usage = .ok x) :
    ∃ part, slope1.rayMul usage = .ok part ∧ part.rayDiv curve.optimalUsage = .ok x := by
  have hnot : ¬ curve.optimalUsage < usage := Nat.not_lt.2 hu
  unfold rise at h
  rw [if_neg hnot] at h
  exact bind_eq_ok.1 h

/-- above it, the rise is all of the first slope and the part of the second that the excess is of what is left -/
theorem rise_above (hu : curve.optimalUsage < usage) (h : curve.rise slope1 slope2 usage = .ok x) :
    ∃ excess steep, (usage.monus curve.optimalUsage).rayDiv curve.excessUsageSpan = .ok excess ∧
      slope2.rayMul excess = .ok steep ∧ x.toNat = slope1.toNat + steep.toNat := by
  unfold rise at h
  rw [if_pos hu] at h
  simp only [bind_eq_ok, add_eq_ok] at h
  obtain ⟨excess, hexcess, steep, hsteep, hx⟩ := h
  exact ⟨excess, steep, hexcess, hsteep, hx⟩

theorem rise_mono_below (hle : usage ≤ later) (hl : later ≤ curve.optimalUsage)
    (hx : curve.rise slope1 slope2 usage = .ok x) (hy : curve.rise slope1 slope2 later = .ok y) :
    x.toNat ≤ y.toNat := by
  obtain ⟨part, hpart, hx⟩ := rise_below (Nat.le_trans hle hl) hx
  obtain ⟨part', hpart', hy⟩ := rise_below hl hy
  have hparts : part.toNat ≤ part'.toNat := by
    rw [toNat_rayMul hpart, toNat_rayMul hpart']
    exact halfUp_mono (Nat.mul_le_mul_left _ hle) _
  rw [toNat_rayDiv hx, toNat_rayDiv hy]
  exact halfUp_mono (Nat.mul_le_mul_right _ hparts) _

theorem rise_mono_above (hle : usage ≤ later) (hu : curve.optimalUsage < usage)
    (hx : curve.rise slope1 slope2 usage = .ok x) (hy : curve.rise slope1 slope2 later = .ok y) :
    x.toNat ≤ y.toNat := by
  obtain ⟨excess, steep, hexcess, hsteep, hx⟩ := rise_above hu hx
  obtain ⟨excess', steep', hexcess', hsteep', hy⟩ := rise_above (Nat.lt_of_lt_of_le hu hle) hy
  have hexcesses : excess.toNat ≤ excess'.toNat := by
    rw [toNat_rayDiv hexcess, toNat_rayDiv hexcess', toNat_monus, toNat_monus]
    exact halfUp_mono (Nat.mul_le_mul_right _ (Nat.sub_le_sub_right hle _)) _
  rw [hx, hy, toNat_rayMul hsteep, toNat_rayMul hsteep']
  exact Nat.add_le_add_left (halfUp_mono (Nat.mul_le_mul_left _ hexcesses) _) _

/-- up to the bend a rate rises by hardly more than the first slope -/
theorem rise_below_le (hc : curve.Bends) (hu : usage ≤ curve.optimalUsage)
    (h : curve.rise slope1 slope2 usage = .ok x) :
    2 * curve.optimalUsage.toNat * x.toNat ≤
      2 * curve.optimalUsage.toNat * slope1.toNat + ray + curve.optimalUsage.toNat := by
  obtain ⟨part, hpart, hx⟩ := rise_below hu h
  have hquotient := two_mul_halfUp_le (part.toNat * ray) (toNat_pos hc.pos)
  have hproduct := two_mul_halfUp_le (slope1.toNat * usage.toNat) ray_pos
  rw [← toNat_rayDiv hx] at hquotient
  rw [← toNat_rayMul hpart] at hproduct
  -- the rise times the bend is the part in rays, and that the slope times the usage, each up to half its divisor
  have hslope : slope1.toNat * usage.toNat ≤ slope1.toNat * curve.optimalUsage.toNat := Nat.mul_le_mul_left _ hu
  linarith

/-- and at the bend by hardly less -/
theorem slope_le_rise_bend (hc : curve.Bends) (h : curve.rise slope1 slope2 curve.optimalUsage = .ok x) :
    2 * curve.optimalUsage.toNat * slope1.toNat ≤
      2 * curve.optimalUsage.toNat * x.toNat + ray + curve.optimalUsage.toNat := by
  obtain ⟨part, hpart, hx⟩ := rise_below (Nat.le_refl _) h
  have hquotient := lt_two_mul_halfUp (part.toNat * ray) (toNat_pos hc.pos)
  have hproduct := lt_two_mul_halfUp (slope1.toNat * curve.optimalUsage.toNat) ray_pos
  rw [← toNat_rayDiv hx] at hquotient
  rw [← toNat_rayMul hpart] at hproduct
  linarith

/-- above the bend a rate has risen by the first slope, and by no more than both -/
theorem rise_above_bounds (hu : curve.optimalUsage < usage) (hone : usage.toNat ≤ ray)
    (h : curve.rise slope1 slope2 usage = .ok x) :
    slope1.toNat ≤ x.toNat ∧ x.toNat ≤ slope1.toNat + slope2.toNat := by
  obtain ⟨excess, steep, hexcess, hsteep, hx⟩ := rise_above hu h
  have hpart : excess.toNat ≤ ray := by
    rw [toNat_rayDiv hexcess]
    exact halfUp_ratio_le (spans_of_lt hu hone).pos ray (excess_le hu hone)
  have hsteepLe : steep.toNat ≤ slope2.toNat := by
    rw [toNat_rayMul hsteep]
    exact halfUp_mul_le ray_pos _ hpart
  omega

/-! ## Climbing -/

/-- `y`, at the usage `later`, is no less than `x` at `usage`, or less by no more than the gap between the formulas on
the two sides of the bend when the bend lies in between -/
def Climbs (curve : RateCurve) (usage later : UInt256) (x y : Nat) : Prop :=
  if usage ≤ curve.optimalUsage ↔ later ≤ curve.optimalUsage then x ≤ y
  else 2 * curve.optimalUsage.toNat * x ≤ 2 * curve.optimalUsage.toNat * y + ray + curve.optimalUsage.toNat

theorem Climbs.add_left {m n : Nat} (h : curve.Climbs usage later m n) (base : Nat) :
    curve.Climbs usage later (base + m) (base + n) := by
  unfold Climbs at *
  split at h
  · next hside => rw [if_pos hside]; omega
  · next hacross => rw [if_neg hacross]; linarith

/-- **A rise climbs with the usage.** -/
theorem rise_climbs (hc : curve.Bends) (hle : usage ≤ later) (hone : later.toNat ≤ ray)
    (hx : curve.rise slope1 slope2 usage = .ok x) (hy : curve.rise slope1 slope2 later = .ok y) :
    curve.Climbs usage later x.toNat y.toNat := by
  unfold Climbs
  split
  · next hside =>
    by_cases hu : usage ≤ curve.optimalUsage
    · exact rise_mono_below hle (hside.1 hu) hx hy
    · exact rise_mono_above hle (Nat.lt_of_not_le hu) hx hy
  · next hacross =>
    -- a later usage on the other side can only be the higher one
    have hsides : usage ≤ curve.optimalUsage ∧ curve.optimalUsage < later := by
      simp only [le_iff, lt_iff] at *
      omega
    have hbelow := rise_below_le hc hsides.1 hx
    have habove := (rise_above_bounds hsides.2 hone hy).1
    have := Nat.mul_le_mul_left (2 * curve.optimalUsage.toNat) habove
    omega

/-! ## The rates -/

variable {balances : Balances} {rates : InterestRates}

/-- the two rates of borrowers, each a base and a rise at the borrow usage -/
theorem rates_borrow (h : curve.rates balances = .ok rates) :
    ∃ variableRise stableBase stableRise debt share premium : UInt256,
      curve.rise curve.variableSlope1 curve.variableSlope2 rates.usage.borrow = .ok variableRise ∧
      rates.variableRate.toNat = curve.baseVariable.toNat + variableRise.toNat ∧
      curve.baseStable = .ok stableBase ∧
      curve.rise curve.stableSlope1 curve.stableSlope2 rates.usage.borrow = .ok stableRise ∧
      balances.stableShare debt = .ok share ∧ curve.stablePremium share = .ok premium ∧
      rates.stableRate.toNat = stableBase.toNat + stableRise.toNat + premium.toNat := by
  simp only [RateCurve.rates, bind_eq_ok, add_eq_ok] at h
  obtain ⟨debt, _, usage, _, share, hshare, base, hbase, stableRise, hstable, risen, hrisen, variableRise, hvariable,
    variableRate, hvariableRate, premium, hpremium, stableRate, hstableRate, _, _, _, _, _, _, _, _, h⟩ := h
  cases h
  exact ⟨variableRise, base, stableRise, debt, share, premium, hvariable, hvariableRate, hbase, hstable, hshare,
    hpremium, by dsimp only; omega⟩

theorem usage_le_one (h : curve.rates balances = .ok rates) : rates.usage.borrow.toNat ≤ ray := by
  obtain ⟨_, _, _, _, _, husage, _⟩ := rates_spec h
  exact (Usage.of_bounds husage).2

/-- where nobody owes stable debt, nothing is added for its share -/
theorem premium_zero (hnone : balances.stableDebt = 0) {debt share premium : UInt256}
    (hshare : balances.stableShare debt = .ok share) (h : curve.stablePremium share = .ok premium) :
    premium = 0 := by
  have hzero : share = 0 := by
    unfold Balances.stableShare at hshare
    split at hshare
    · cases hshare
      rfl
    · next hne =>
      rw [hnone, zero_rayDiv (mt eq_zero_iff.2 hne)] at hshare
      exact (Except.ok.inj hshare).symm
  have hnot : ¬ curve.optimalStableShare < 0 := Nat.not_lt_zero _
  subst hzero
  unfold stablePremium at h
  rw [if_neg hnot] at h
  exact (Except.ok.inj h).symm

/-- both rates climb with the usage while there is no stable debt -/
theorem rates_climb (hc : curve.Bends) {b b' : Balances} {r s : InterestRates} (hb : b.stableDebt = 0)
    (hb' : b'.stableDebt = 0) (hr : curve.rates b = .ok r) (hs : curve.rates b' = .ok s)
    (hle : r.usage.borrow ≤ s.usage.borrow) :
    curve.Climbs r.usage.borrow s.usage.borrow r.variableRate.toNat s.variableRate.toNat ∧
      curve.Climbs r.usage.borrow s.usage.borrow r.stableRate.toNat s.stableRate.toNat := by
  have hone := usage_le_one hs
  obtain ⟨variableRise, base, stableRise, debt, share, premium, hv, hvariable, hbase, hst, hshare, hpremium, hstable⟩ :=
    rates_borrow hr
  obtain ⟨variableRise', base', stableRise', debt', share', premium', hv', hvariable', hbase', hst', hshare', hpremium',
    hstable'⟩ := rates_borrow hs
  obtain rfl := Except.ok.inj (hbase.symm.trans hbase')
  rw [premium_zero hb hshare hpremium, toNat_zero, Nat.add_zero] at hstable
  rw [premium_zero hb' hshare' hpremium', toNat_zero, Nat.add_zero] at hstable'
  rw [hvariable, hvariable', hstable, hstable']
  exact ⟨(rise_climbs hc hle hone hv hv').add_left _, (rise_climbs hc hle hone hst hst').add_left _⟩

/-- the variable rate lies where the slopes say -/
structure FollowsSlopes (curve : RateCurve) (rates : InterestRates) : Prop where
  base_le : curve.baseVariable ≤ rates.variableRate
  above : curve.optimalUsage < rates.usage.borrow →
    curve.baseVariable.toNat + curve.variableSlope1.toNat ≤ rates.variableRate.toNat ∧
      rates.variableRate.toNat ≤
        curve.baseVariable.toNat + curve.variableSlope1.toNat + curve.variableSlope2.toNat
  bend : rates.usage.borrow = curve.optimalUsage →
    2 * curve.optimalUsage.toNat *
        |(rates.variableRate.toNat : ℤ) - (curve.baseVariable.toNat + curve.variableSlope1.toNat)| ≤
      ray + curve.optimalUsage.toNat

theorem rates_followsSlopes (hc : curve.Bends) (h : curve.rates balances = .ok rates) :
    curve.FollowsSlopes rates := by
  obtain ⟨risen, _, _, _, _, _, hrise, hrate, _⟩ := rates_borrow h
  refine ⟨?_, fun habove => ?_, fun hbend => ?_⟩
  · rw [le_iff, hrate]
    exact Nat.le_add_right _ _
  · have hbounds := rise_above_bounds habove (usage_le_one h) hrise
    omega
  · rw [hbend] at hrise
    have hupper := rise_below_le hc (Nat.le_refl _) hrise
    have hlower := slope_le_rise_bend hc hrise
    have hdistance : (rates.variableRate.toNat : ℤ) - (curve.baseVariable.toNat + curve.variableSlope1.toNat) =
        risen.toNat - curve.variableSlope1.toNat := by
      rw [hrate]
      push_cast
      ring
    have hnonneg : (0 : ℤ) ≤ 2 * curve.optimalUsage.toNat := by omega
    zify at hupper hlower
    rw [hdistance, ← abs_of_nonneg hnonneg, ← abs_mul, abs_le]
    constructor <;> linarith

/-- **The rates climb with the usage, on each side of the bend and over it up to rounding, and the variable rate lies
between the base and what the slopes add to it.** -/
theorem rates_shape {config : ReserveConfig} (hv : config.Valid) :
    (∀ (b b' : Balances) (r s : InterestRates), b.stableDebt = 0 → b'.stableDebt = 0 →
      config.curve.rates b = .ok r → config.curve.rates b' = .ok s → r.usage.borrow ≤ s.usage.borrow →
        config.curve.Climbs r.usage.borrow s.usage.borrow r.variableRate.toNat s.variableRate.toNat ∧
        config.curve.Climbs r.usage.borrow s.usage.borrow r.stableRate.toNat s.stableRate.toNat) ∧
    ∀ (b : Balances) (r : InterestRates), config.curve.rates b = .ok r → config.curve.FollowsSlopes r :=
  ⟨fun _ _ _ _ hb hb' hr hs hle => rates_climb hv.bends hb hb' hr hs hle,
    fun _ _ hr => rates_followsSlopes hv.bends hr⟩

end RateCurve

/-- a market of 100 tokens of which `lent` are lent out at the variable rate -/
def Sample.lending (lent : Nat) : Balances where
  stableDebt := 0
  variableDebt := tokens lent
  averageStableRate := 0
  available := tokens (100 - lent)
  unbacked := 0
  reserveFactor := 1000

/-- the sample curve bends at 45% usage: over the bend the rates climb, at it the variable rate is the first slope -/
theorem RateCurve.rates_shape_sample :
    Sample.reserveConfig.Valid ∧ ∃ r s, Sample.curve.rates (Sample.lending 45) = .ok r ∧
      Sample.curve.rates (Sample.lending 80) = .ok s ∧ r.usage.borrow = Sample.curve.optimalUsage ∧
      Sample.curve.optimalUsage < s.usage.borrow ∧
      Sample.curve.Climbs r.usage.borrow s.usage.borrow r.variableRate.toNat s.variableRate.toNat ∧
      Sample.curve.Climbs r.usage.borrow s.usage.borrow r.stableRate.toNat s.stableRate.toNat ∧
      Sample.curve.FollowsSlopes r ∧ Sample.curve.FollowsSlopes s := by
  have hv : Sample.reserveConfig.Valid := by decide
  obtain ⟨r, hr, s, hs, hle, hbend, habove⟩ :
      ∃ r, Sample.curve.rates (Sample.lending 45) = .ok r ∧ ∃ s, Sample.curve.rates (Sample.lending 80) = .ok s ∧
        r.usage.borrow ≤ s.usage.borrow ∧ r.usage.borrow = Sample.curve.optimalUsage ∧
        Sample.curve.optimalUsage < s.usage.borrow := by
    decide +kernel
  obtain ⟨hclimbs, hfollows⟩ := rates_shape hv
  obtain ⟨hvariable, hstable⟩ := hclimbs _ _ r s rfl rfl hr hs hle
  exact ⟨hv, r, s, hr, hs, hbend, habove, hvariable, hstable, hfollows _ r hr, hfollows _ s hs⟩

end Lending
