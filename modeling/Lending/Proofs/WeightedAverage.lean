/-
Averaged rates are weighted means, and taking out what was blended in gives back what there was.

A debt weighs its rate by its size. Both the debts that a weight is made of and the debt that it is divided by are scaled
from wads to rays, and a ratio is rounded alike on every scale, so a weight is the product of a rate and a debt on the wad
scale and an average is the quotient of weights by a debt on it. Each of these roundings moves what it rounds by half a
wad or half the debt, and the bounds below are sums of such halves: one wad for two weights, half the debt for an
average. For debts of less than a wad, or of few decimals, the wad is what dominates.

Results:
- `blendedRate_error`: the average times the whole debt is what both parts weigh, up to rounding;
- `blendedRate_first`: where there was no debt, a debt of at least one wad keeps exactly its rate;
- `averages_are_means`: the same for both uses of the average, with the bounds by the smaller and the larger rate;
- `BlendedIn.weight_left`, `AveragedDebt.remove_blended`: after a part that was blended in is taken out, the weight
  that is left is that of the old debt up to rounding; as long as this rounding cannot use up the whole weight, the old
  debt is left exactly and its rate up to rounding.
-/
import Lending.Proofs.Rates
import Lending.Proofs.RoundingError
import Lending.Sample

namespace Lending

open UInt256

variable {debt rate other otherRate average total weight removed : UInt256}

/-! ## On the wad scale -/

theorem wad_pos : 0 < wad := by decide

theorem raysPerWad_pos : 0 < raysPerWad := by decide

theorem ray_eq : ray = wad * raysPerWad := by decide

theorem toNat_rateWeight (h : rateWeight debt rate = .ok weight) :
    weight.toNat = halfUp (rate.toNat * debt.toNat) wad := by
  obtain ⟨scaled, hscaled, h⟩ := bind_eq_ok.1 h
  rw [toNat_rayMul h, toNat_wadToRay hscaled, ← Nat.mul_assoc, ray_eq]
  exact halfUp_scale _ wad_pos raysPerWad_pos

theorem toNat_rayDiv_wadToRay {scaled : UInt256} (hscaled : debt.wadToRay = .ok scaled)
    (h : weight.rayDiv scaled = .ok average) (hpos : 0 < debt.toNat) :
    average.toNat = halfUp (weight.toNat * wad) debt.toNat := by
  rw [toNat_rayDiv h, toNat_wadToRay hscaled, ray_eq, ← Nat.mul_assoc]
  exact halfUp_scale _ hpos raysPerWad_pos

/-! ## Blending -/

/-- the average is the sum of the two weights over the sum of the two debts -/
theorem toNat_blendedRate (h : blendedRate debt rate other otherRate = .ok average)
    (hpos : 0 < debt.toNat + other.toNat) :
    average.toNat = halfUp ((halfUp (rate.toNat * debt.toNat) wad + halfUp (otherRate.toNat * other.toNat) wad) * wad)
      (debt.toNat + other.toNat) := by
  obtain ⟨total, htotal, ⟨hzero, _⟩ | ⟨_, first, second, weight, scaled, hfirst, hsecond, hweight, hscaled, haverage⟩⟩ :=
    blendedRate_eq_ok h
  · rw [add_eq_ok, hzero, toNat_zero] at htotal
    omega
  · rw [add_eq_ok] at htotal hweight
    rw [← htotal] at hpos ⊢
    rw [toNat_rayDiv_wadToRay hscaled haverage hpos, hweight, toNat_rateWeight hfirst, toNat_rateWeight hsecond]

/-- **The average times the whole debt is what both parts weigh**, up to one wad and half the debt. -/
theorem blendedRate_error (h : blendedRate debt rate other otherRate = .ok average)
    (hpos : 0 < debt.toNat + other.toNat) :
    |2 * (average.toNat * (debt.toNat + other.toNat) : ℤ) -
      2 * (rate.toNat * debt.toNat + otherRate.toNat * other.toNat)| ≤ 2 * wad + (debt.toNat + other.toNat) := by
  have hfirst := abs_halfUp_sub_le (rate.toNat * debt.toNat) wad_pos
  have hsecond := abs_halfUp_sub_le (otherRate.toNat * other.toNat) wad_pos
  have haverage := abs_halfUp_sub_le
    ((halfUp (rate.toNat * debt.toNat) wad + halfUp (otherRate.toNat * other.toNat) wad) * wad) hpos
  rw [← toNat_blendedRate h hpos] at haverage
  push_cast at *
  rw [abs_le] at *
  constructor <;> linarith

/-- **Where there was no debt, a debt of at least one wad keeps exactly its rate.** -/
theorem blendedRate_first (h : blendedRate 0 rate other otherRate = .ok average) (hwad : wad ≤ other.toNat) :
    average = otherRate := by
  have hpos : 0 < (0 : UInt256).toNat + other.toNat := Nat.lt_add_left _ (Nat.lt_of_lt_of_le wad_pos hwad)
  refine ext ?_
  rw [toNat_blendedRate h hpos, toNat_zero, Nat.mul_zero, halfUp_zero wad_pos, Nat.zero_add, Nat.zero_add]
  exact halfUp_mul_cancel wad_pos _ hwad

/-- `average` is the mean of two rates, weighted by the debts they are carried on, up to rounding -/
structure IsMean (debt rate other otherRate average : UInt256) : Prop where
  min_le : min rate.toNat otherRate.toNat * (debt.toNat + other.toNat) ≤
    (average.toNat + 1) * (debt.toNat + other.toNat) + wad
  le_max : average.toNat * (debt.toNat + other.toNat) ≤
    (max rate.toNat otherRate.toNat + 1) * (debt.toNat + other.toNat) + wad
  error : |(average.toNat * (debt.toNat + other.toNat) : ℤ) -
    (rate.toNat * debt.toNat + otherRate.toNat * other.toNat)| ≤ wad + (debt.toNat + other.toNat)

theorem blendedRate_isMean (h : blendedRate debt rate other otherRate = .ok average)
    (hpos : 0 < debt.toNat + other.toNat) : IsMean debt rate other otherRate average := by
  have herror := abs_le.1 (blendedRate_error h hpos)
  -- the exact mean lies between the two rates
  have hmin : min rate.toNat otherRate.toNat * (debt.toNat + other.toNat) ≤
      rate.toNat * debt.toNat + otherRate.toNat * other.toNat := by
    rw [Nat.mul_add]
    exact Nat.add_le_add (Nat.mul_le_mul_right _ (Nat.min_le_left _ _)) (Nat.mul_le_mul_right _ (Nat.min_le_right _ _))
  have hmax : rate.toNat * debt.toNat + otherRate.toNat * other.toNat ≤
      max rate.toNat otherRate.toNat * (debt.toNat + other.toNat) := by
    rw [Nat.mul_add]
    exact Nat.add_le_add (Nat.mul_le_mul_right _ (Nat.le_max_left _ _)) (Nat.mul_le_mul_right _ (Nat.le_max_right _ _))
  zify at hmin hmax
  refine ⟨?_, ?_, abs_le.2 ⟨?_, ?_⟩⟩
  · zify
    linarith
  · zify
    linarith
  · linarith
  · linarith

/-- **Averaged rates are weighted means.** A debt that joins another is averaged with it, and so are the variable and the
stable debt of a market. -/
theorem averages_are_means :
    (∀ {debt rate other otherRate average : UInt256}, 0 < debt.toNat + other.toNat →
      blendedRate debt rate other otherRate = .ok average →
        IsMean debt rate other otherRate average ∧ (debt = 0 → wad ≤ other.toNat → average = otherRate)) ∧
    ∀ {stableDebt variableDebt variableRate averageStableRate overall : UInt256},
      0 < variableDebt.toNat + stableDebt.toNat →
      overallRate stableDebt variableDebt variableRate averageStableRate = .ok overall →
        IsMean variableDebt variableRate stableDebt averageStableRate overall := by
  refine ⟨fun hpos h => ⟨blendedRate_isMean h hpos, ?_⟩, fun hpos h => blendedRate_isMean h hpos⟩
  rintro rfl hwad
  exact blendedRate_first h hwad

/-- a loan of 333 tokens and one unit joins 1000 tokens, then it is the first one, and both kinds of debt share a market -/
theorem averages_are_means_loans :
    (∃ average, blendedRate (Sample.tokens 1000) (Sample.percent 10) (.ofNat (333 * wad + 1)) (Sample.percent 16) =
        .ok average ∧
      IsMean (Sample.tokens 1000) (Sample.percent 10) (.ofNat (333 * wad + 1)) (Sample.percent 16) average) ∧
    blendedRate 0 0 (.ofNat (333 * wad + 1)) (Sample.percent 16) = .ok (Sample.percent 16) ∧
    ∃ overall, overallRate (Sample.tokens 60) (Sample.tokens 30) (Sample.percent 7) (Sample.percent 9) = .ok overall ∧
      IsMean (Sample.tokens 30) (Sample.percent 7) (Sample.tokens 60) (Sample.percent 9) overall := by
  obtain ⟨⟨average, hjoined, _⟩, ⟨first, hfirst, _⟩, ⟨overall, hoverall, _⟩⟩ :
      (∃ average, blendedRate (Sample.tokens 1000) (Sample.percent 10) (.ofNat (333 * wad + 1)) (Sample.percent 16) =
        .ok average ∧ average ≠ 0) ∧
      (∃ first, blendedRate 0 0 (.ofNat (333 * wad + 1)) (Sample.percent 16) = .ok first ∧ first ≠ 0) ∧
      ∃ overall, overallRate (Sample.tokens 60) (Sample.tokens 30) (Sample.percent 7) (Sample.percent 9) =
        .ok overall ∧ overall ≠ 0 := by
    decide +kernel
  obtain rfl : first = Sample.percent 16 := (averages_are_means.1 (by decide) hfirst).2 rfl (by decide)
  exact ⟨⟨average, hjoined, (averages_are_means.1 (by decide) hjoined).1⟩, hfirst,
    ⟨overall, hoverall, averages_are_means.2 (by decide) hoverall⟩⟩

/-! ## Taking out what was blended in -/

section

variable {amount amountRate scaled rate' : UInt256}

/-- a part joined a debt, and these are the weights that are compared when the part is taken out again -/
structure BlendedIn (debt rate amount amountRate total average weight removed : UInt256) : Prop where
  blends : blendedRate debt rate amount amountRate = .ok average
  adds : debt.add amount = .ok total
  weighs : rateWeight total average = .ok weight
  weighsPart : rateWeight amount amountRate = .ok removed

namespace BlendedIn

/-- The weight that is left is that of the debt there was, up to the roundings of the old weight, of the average and of
the whole weight. That of the part is rounded the same way twice. -/
theorem weight_left (h : BlendedIn debt rate amount amountRate total average weight removed) (hpos : 0 < total.toNat) :
    |2 * ((weight.toNat - removed.toNat) * wad : ℤ) - 2 * (debt.toNat * rate.toNat)| ≤
      2 * wad + (debt.toNat + amount.toNat) := by
  have htotal := add_eq_ok.1 h.adds
  have hold := abs_halfUp_sub_le (rate.toNat * debt.toNat) wad_pos
  have hwhole := abs_halfUp_sub_le (average.toNat * total.toNat) wad_pos
  have haverage := abs_halfUp_sub_le
    ((halfUp (rate.toNat * debt.toNat) wad + halfUp (amountRate.toNat * amount.toNat) wad) * wad) (htotal ▸ hpos)
  rw [← toNat_blendedRate h.blends (htotal ▸ hpos), ← toNat_rateWeight h.weighsPart] at haverage
  rw [← toNat_rateWeight h.weighs, htotal] at hwhole
  push_cast at *
  rw [abs_le] at *
  constructor <;> linarith

/-- so the whole is heavier than the part, when the debt there was weighs more than the rounding can move -/
theorem removed_lt (h : BlendedIn debt rate amount amountRate total average weight removed) (hpos : 0 < total.toNat)
    (hheavy : debt.toNat + amount.toNat + 2 * wad < debt.toNat * rate.toNat) : removed < weight := by
  have hleft := abs_le.1 (h.weight_left hpos)
  by_contra hle
  have hle : (weight.toNat : ℤ) - removed.toNat ≤ 0 := by
    rw [lt_iff] at hle
    omega
  have hnone : ((weight.toNat - removed.toNat) * wad : ℤ) ≤ 0 :=
    mul_nonpos_of_nonpos_of_nonneg hle (Nat.cast_nonneg wad)
  zify at hheavy
  linarith

/-- and what is left of the weight, divided by the debt there was, is the rate there was up to one rounding more -/
theorem rate_left (h : BlendedIn debt rate amount amountRate total average weight removed) (hpos : 0 < debt.toNat)
    (hle : removed ≤ weight) (hscaled : debt.wadToRay = .ok scaled)
    (hrate : (weight.monus removed).rayDiv scaled = .ok rate') :
    2 * (debt.toNat * |(rate'.toNat : ℤ) - rate.toNat|) ≤ 2 * wad + 2 * debt.toNat + amount.toNat := by
  have htotalPos : 0 < total.toNat := by
    rw [add_eq_ok.1 h.adds]
    exact Nat.lt_add_right _ hpos
  have hleft := abs_le.1 (h.weight_left htotalPos)
  have hnew := abs_halfUp_sub_le ((weight.monus removed).toNat * wad) hpos
  rw [← toNat_rayDiv_wadToRay hscaled hrate hpos, toNat_monus, Nat.cast_mul, Nat.cast_sub hle] at hnew
  have hnew := abs_le.1 hnew
  have hclose : |2 * ((rate'.toNat : ℤ) * debt.toNat - debt.toNat * rate.toNat)| ≤
      2 * wad + 2 * debt.toNat + amount.toNat := by
    rw [abs_le]
    constructor <;> linarith
  calc 2 * (debt.toNat * |(rate'.toNat : ℤ) - rate.toNat|)
      = |(2 * debt.toNat : ℤ)| * |(rate'.toNat : ℤ) - rate.toNat| := by rw [abs_mul, abs_two, Nat.abs_cast, mul_assoc]
    _ = |2 * ((rate'.toNat : ℤ) * debt.toNat - debt.toNat * rate.toNat)| := by
      rw [← abs_mul]
      exact congrArg _ (by ring)
    _ ≤ 2 * wad + 2 * debt.toNat + amount.toNat := hclose

end BlendedIn

/-- **Taking out what was blended in gives back the debt there was**, exactly, and its rate up to rounding, when that
debt weighs more than the rounding can move. -/
theorem AveragedDebt.remove_blended (hblend : blendedRate debt rate amount amountRate = .ok average)
    (htotal : debt.add amount = .ok total)
    (hfits : AveragedDebt.remove ⟨total, average⟩ amount amountRate ≠ .error .overflow)
    (hheavy : debt.toNat + amount.toNat + 2 * wad < debt.toNat * rate.toNat) :
    ∃ rate', AveragedDebt.remove ⟨total, average⟩ amount amountRate = .ok ⟨debt, rate'⟩ ∧
      debt.toNat * |(rate'.toNat : ℤ) - rate.toNat| ≤ 2 * wad + 2 * debt.toNat + amount.toNat := by
  have hpos : 0 < debt.toNat := Nat.pos_of_ne_zero fun h0 => by simp [h0] at hheavy
  have hsum := add_eq_ok.1 htotal
  cases hremove : AveragedDebt.remove ⟨total, average⟩ amount amountRate with
  | error f =>
    have hf : f = .overflow := failsOnly_remove (S := (· = .overflow)) rfl _ _ _ f hremove
    exact absurd (hf ▸ hremove) hfits
  | ok rest =>
    rcases remove_eq_ok hremove with ⟨hall, _⟩ | ⟨_, weight, removed, hweight, hremoved, hleft⟩
    · -- the whole is more than the part
      rw [le_iff] at hall
      dsimp only at hall
      omega
    have hparts : BlendedIn debt rate amount amountRate total average weight removed :=
      ⟨hblend, htotal, hweight, hremoved⟩
    have hlt := hparts.removed_lt (by omega) hheavy
    rcases hleft with ⟨hle, _⟩ | ⟨_, hdebt, scaled, hscaled, hrate⟩
    · exact absurd hlt (Nat.not_lt.2 hle)
    · have hrest : rest.debt = debt := by
        refine ext ?_
        rw [hdebt, toNat_monus]
        dsimp only
        omega
      rw [hrest] at hscaled
      have herror := hparts.rate_left hpos (Nat.le_of_lt hlt) hscaled hrate
      exact ⟨rest.rate, by rw [← hrest], by linarith⟩

/-- 333 tokens at 16% join 1000 tokens at 10% and leave again; the average is rounded -/
theorem AveragedDebt.remove_blended_tokens :
    ∃ average rate', blendedRate (Sample.tokens 1000) (Sample.percent 10) (Sample.tokens 333) (Sample.percent 16) =
        .ok average ∧
      remove ⟨Sample.tokens 1333, average⟩ (Sample.tokens 333) (Sample.percent 16) =
        .ok ⟨Sample.tokens 1000, rate'⟩ ∧
      (Sample.tokens 1000).toNat * |(rate'.toNat : ℤ) - (Sample.percent 10).toNat| ≤
        2 * wad + 2 * (Sample.tokens 1000).toNat + (Sample.tokens 333).toNat := by
  obtain ⟨average, hblend, hfits⟩ :
      ∃ average, blendedRate (Sample.tokens 1000) (Sample.percent 10) (Sample.tokens 333) (Sample.percent 16) =
          .ok average ∧
        remove ⟨Sample.tokens 1333, average⟩ (Sample.tokens 333) (Sample.percent 16) ≠ .error .overflow := by
    decide +kernel
  have htotal : (Sample.tokens 1000).add (Sample.tokens 333) = .ok (Sample.tokens 1333) := rfl
  obtain ⟨rate', hremove, hrate⟩ := remove_blended hblend htotal hfits (by decide)
  exact ⟨average, rate', hblend, hremove, hrate⟩

end

end Lending
