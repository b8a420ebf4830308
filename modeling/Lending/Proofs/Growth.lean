/-
Growth never shrinks a balance, and more time never grows it less.

Results:
- `ray_le_linearGrowth`, `ray_le_compoundedGrowth`: a growth factor is at least one;
- `compoundedGrowth_within`, `linearGrowth_within`: of two rates and two moments the higher and the later have the larger
  factor, and simple interest is at most compound interest; where the larger number fits, so does the smaller one;
- `growth_ordered`: so factors are ordered, and at a rate of at most a thousand they are there at all times;
- `le_supplyIndexAt`, `le_debtIndexAt`: an index never falls;
- `stableDebtAt_mono`: of two moments the later has the larger debt;
- `stableDebtAt_same`: at the moment of its last change a stable debt is its principal.
A growth function is refused only because a time is stale or a number does not fit.
-/
import Lending.Growth
import Lending.Proofs.Monotone

namespace Lending

open UInt256

/-! ## Factors -/

theorem ray_le_linearGrowth {rate g : UInt256} {since now : Nat} (h : linearGrowth rate since now = .ok g) :
    ray ≤ g.toNat := by
  simp only [linearGrowth, bind_eq_ok] at h
  obtain ⟨_, _, interest, _, h⟩ := h
  rw [fit_eq_ok.1 h]
  exact Nat.le_add_right _ _

/-- compound interest starts with simple interest -/
theorem simpleTerms_le {rate g : UInt256} {n : Nat} (h : compoundedTerms rate n = .ok g) :
    ∃ interest, fit (rate.toNat * n) = .ok interest ∧ ray + interest.toNat / secondsPerYear ≤ g.toNat := by
  simp only [compoundedTerms, bind_eq_ok, fit_eq_ok] at h
  obtain ⟨_, _, _, _, second, _, third, _, first, hfirst, hg⟩ := h
  exact ⟨first, fit_eq_ok.2 hfirst, by omega⟩

theorem compoundedGrowth_eq_ok {rate g : UInt256} {since now : Nat} :
    compoundedGrowth rate since now = .ok g ↔ since ≤ now ∧
      (if now = since then g = oneRay else compoundedTerms rate (now - since) = .ok g) := by
  simp only [compoundedGrowth, bind_eq_ok, require_eq_ok]
  constructor
  · rintro ⟨_, hle, h⟩
    refine ⟨hle, ?_⟩
    split
    · next he => rw [if_pos he] at h; cases h; rfl
    · next he => rwa [if_neg he] at h
  · rintro ⟨hle, h⟩
    refine ⟨(), hle, ?_⟩
    split
    · next he => rw [if_pos he] at h; rw [h]; rfl
    · next he => rwa [if_neg he] at h

theorem ray_le_compoundedTerms {rate g : UInt256} {n : Nat} (h : compoundedTerms rate n = .ok g) : ray ≤ g.toNat := by
  obtain ⟨_, _, hle⟩ := simpleTerms_le h
  exact (Nat.le_add_right _ _).trans hle

theorem ray_le_compoundedGrowth {rate g : UInt256} {since now : Nat} (h : compoundedGrowth rate since now = .ok g) :
    ray ≤ g.toNat := by
  have h := (compoundedGrowth_eq_ok.1 h).2
  split at h
  · rw [h, toNat_oneRay]
  · exact ray_le_compoundedTerms h

/-! ## The order of factors -/

/-- each term of compound interest rises with the rate and with the time -/
theorem compoundedTerms_within {rate rate' : UInt256} {n m : Nat} (hr : rate ≤ rate') (hn : n ≤ m) :
    Within (compoundedTerms rate n) (compoundedTerms rate' m) := by
  have hpairs : n * (n - 1) ≤ m * (m - 1) := Nat.mul_le_mul hn (Nat.sub_le_sub_right hn 1)
  have htriples : n * (n - 1) * (n - 2) ≤ m * (m - 1) * (m - 2) := Nat.mul_le_mul hpairs (Nat.sub_le_sub_right hn 2)
  refine (within_rayMul hr hr).bind fun square square' hsquare => ?_
  have hsquare := divNat_mono hsquare (secondsPerYear * secondsPerYear)
  refine (within_rayMul hsquare hr).bind fun cube cube' hcube => ?_
  have hcube := divNat_mono hcube secondsPerYear
  refine (within_fit (Nat.mul_le_mul hpairs hsquare)).bind fun second second' hsecond => ?_
  refine (within_fit (Nat.mul_le_mul htriples hcube)).bind fun third third' hthird => ?_
  refine (within_fit (Nat.mul_le_mul hr hn)).bind fun first first' hfirst => within_fit ?_
  have := Nat.div_le_div_right (c := secondsPerYear) hfirst
  have := Nat.div_le_div_right (c := 2) hsecond
  have := Nat.div_le_div_right (c := 6) hthird
  omega

/-- **A higher rate and a later moment give the larger factor.** A factor that can be computed shows that every smaller
one can. -/
theorem compoundedGrowth_within {rate rate' : UInt256} {since now later : Nat} (hr : rate ≤ rate') (hs : since ≤ now)
    (hn : now ≤ later) : Within (compoundedGrowth rate since now) (compoundedGrowth rate' since later) := by
  intro g hg
  by_cases hsame : now = since
  · refine ⟨oneRay, compoundedGrowth_eq_ok.2 ⟨hs, ?_⟩, ray_le_compoundedGrowth hg⟩
    rw [if_pos hsame]
  · have hterms := (compoundedGrowth_eq_ok.1 hg).2
    rw [if_neg (by omega)] at hterms
    obtain ⟨f, hf, hle⟩ := compoundedTerms_within hr (Nat.sub_le_sub_right hn since) g hterms
    refine ⟨f, compoundedGrowth_eq_ok.2 ⟨hs, ?_⟩, hle⟩
    rwa [if_neg hsame]

/-- **Simple interest is at most compound interest.** -/
theorem linearGrowth_within (rate : UInt256) (since now : Nat) :
    Within (linearGrowth rate since now) (compoundedGrowth rate since now) := by
  intro g hg
  obtain ⟨hle, hterms⟩ := compoundedGrowth_eq_ok.1 hg
  have hsimple : ∃ interest, fit (rate.toNat * (now - since)) = .ok interest ∧
      ray + interest.toNat / secondsPerYear ≤ g.toNat := by
    split at hterms
    · next hsame =>
      rw [hsame, Nat.sub_self, Nat.mul_zero, hterms]
      exact ⟨0, rfl, Nat.le_refl _⟩
    · exact simpleTerms_le hterms
  obtain ⟨interest, hinterest, hsum⟩ := hsimple
  obtain ⟨f, hf, hfg⟩ := within_fit hsum g (fit_eq_ok.2 rfl)
  exact ⟨f, bind_eq_ok.2 ⟨(), require_eq_ok.2 hle, bind_eq_ok.2 ⟨interest, hinterest, hf⟩⟩, hfg⟩

/-! ## The range -/

/-- compound interest at a rate of at most a thousand fits at any time that fits in 64 bits; the largest numbers of the
range stand for all -/
theorem exists_compoundedTerms {rate : UInt256} {n : Nat} (hr : rate.toNat ≤ 1000 * ray) (hn : n ≤ Nat.pow 2 64) :
    ∃ g, compoundedTerms rate n = .ok g := by
  obtain ⟨largest, hlargest, _⟩ :
      ∃ g, compoundedTerms ⟨1000 * ray, by decide⟩ (Nat.pow 2 64) = .ok g ∧ ray ≤ g.toNat := by
    decide +kernel
  obtain ⟨g, hg, _⟩ := compoundedTerms_within (le_iff.2 hr) hn largest hlargest
  exact ⟨g, hg⟩

theorem exists_compoundedGrowth {rate : UInt256} {since now : Nat} (hr : rate.toNat ≤ 1000 * ray) (hs : since ≤ now)
    (hn : now ≤ Nat.pow 2 64) : ∃ g, compoundedGrowth rate since now = .ok g := by
  by_cases hsame : now = since
  · refine ⟨oneRay, compoundedGrowth_eq_ok.2 ⟨hs, ?_⟩⟩
    rw [if_pos hsame]
  · obtain ⟨g, hg⟩ := exists_compoundedTerms hr ((Nat.sub_le now since).trans hn)
    refine ⟨g, compoundedGrowth_eq_ok.2 ⟨hs, ?_⟩⟩
    rwa [if_neg hsame]

/-- **Growth factors are ordered, and there on the supported range.** A factor of compound interest that can be computed
shows that the one at a lower rate and an earlier moment can be, and is no larger; simple interest at the same rate and
over the same time lies between one and it. At a rate of at most a thousand there is a factor between any two moments. -/
theorem growth_ordered :
    (∀ {rate rate' g : UInt256} {since now later : Nat}, rate ≤ rate' → since ≤ now → now ≤ later →
      compoundedGrowth rate' since later = .ok g →
        ∃ compound simple, compoundedGrowth rate since now = .ok compound ∧ compound ≤ g ∧
          linearGrowth rate since now = .ok simple ∧ ray ≤ simple.toNat ∧ simple ≤ compound) ∧
    ∀ {rate : UInt256} {since now : Nat}, rate.toNat ≤ 1000 * ray → since ≤ now → now < Nat.pow 2 64 →
      ∃ g, compoundedGrowth rate since now = .ok g := by
  refine ⟨fun hrate hsince hnow hg => ?_, fun hrate hsince hnow => exists_compoundedGrowth hrate hsince hnow.le⟩
  obtain ⟨compound, hcompound, hle⟩ := compoundedGrowth_within hrate hsince hnow _ hg
  obtain ⟨simple, hsimple, hsimpleLe⟩ := linearGrowth_within _ _ _ compound hcompound
  exact ⟨compound, simple, hcompound, hle, hsimple, ray_le_linearGrowth hsimple, hsimpleLe⟩

/-- two years at 10% against one year at 5%, and the longest time at the highest rate -/
theorem growth_ordered_years :
    (∃ g compound simple, compoundedGrowth (.ofNat (ray / 10)) 500 (500 + 2 * secondsPerYear) = .ok g ∧
      compoundedGrowth (.ofNat (ray / 20)) 500 (500 + secondsPerYear) = .ok compound ∧ compound ≤ g ∧
      linearGrowth (.ofNat (ray / 20)) 500 (500 + secondsPerYear) = .ok simple ∧ ray ≤ simple.toNat ∧
      simple ≤ compound) ∧
    ∃ g, compoundedGrowth (.ofNat (1000 * ray)) 0 (Nat.pow 2 64 - 1) = .ok g := by
  obtain ⟨g, hg, _⟩ :
      ∃ g, compoundedGrowth (.ofNat (ray / 10)) 500 (500 + 2 * secondsPerYear) = .ok g ∧ ray ≤ g.toNat := by
    decide +kernel
  have hrate : UInt256.ofNat (ray / 20) ≤ .ofNat (ray / 10) := by decide
  have hyear : 500 + secondsPerYear ≤ 500 + 2 * secondsPerYear := by decide
  obtain ⟨compound, simple, hfactors⟩ := growth_ordered.1 hrate (Nat.le_add_right _ _) hyear hg
  exact ⟨⟨g, compound, simple, hg, hfactors⟩, growth_ordered.2 (by decide) (by decide) (by decide)⟩

/-! ## Indices -/

/-- a balance times a factor of at least one is at least the balance -/
theorem le_rayMul {factor balance result : UInt256} (h : factor.rayMul balance = .ok result)
    (hf : ray ≤ factor.toNat) : balance.toNat ≤ result.toNat := by
  rw [toNat_rayMul h, Nat.mul_comm]
  exact le_halfUp_mul ray_pos _ hf

theorem le_supplyIndexAt {rate index result : UInt256} {since now : Nat}
    (h : supplyIndexAt rate index since now = .ok result) : index.toNat ≤ result.toNat := by
  simp only [supplyIndexAt, bind_eq_ok] at h
  obtain ⟨_, _, h⟩ := h
  split at h
  · cases h
    exact le_rfl
  · obtain ⟨growth, hg, h⟩ := bind_eq_ok.1 h
    exact le_rayMul h (ray_le_linearGrowth hg)

theorem le_debtIndexAt {rate index result : UInt256} {since now : Nat}
    (h : debtIndexAt rate index since now = .ok result) : index.toNat ≤ result.toNat := by
  simp only [debtIndexAt, bind_eq_ok] at h
  obtain ⟨_, _, h⟩ := h
  split at h
  · cases h
    exact le_rfl
  · obtain ⟨growth, hg, h⟩ := bind_eq_ok.1 h
    exact le_rayMul h (ray_le_compoundedGrowth hg)

/-! ## Stable debt -/

theorem stableDebtAt_mono {principal rate d e : UInt256} {since now later : Nat}
    (hd : stableDebtAt principal rate since now = .ok d) (he : stableDebtAt principal rate since later = .ok e)
    (h : now ≤ later) : d.toNat ≤ e.toNat := by
  unfold stableDebtAt at hd he
  split at hd
  · cases hd
    exact Nat.zero_le _
  · next hp =>
    rw [if_neg hp] at he
    obtain ⟨f, hf, hd⟩ := bind_eq_ok.1 hd
    obtain ⟨g, hg, he⟩ := bind_eq_ok.1 he
    have hs := (compoundedGrowth_eq_ok.1 hf).1
    have hfg := (compoundedGrowth_within (Nat.le_refl _) hs h).le hf hg
    rw [toNat_rayMul hd, toNat_rayMul he]
    exact halfUp_mono (Nat.mul_le_mul_left _ hfg) _

/-- at the moment of its last change a stable debt is its principal -/
theorem stableDebtAt_same {principal rate d : UInt256} {now : Nat} (h : stableDebtAt principal rate now now = .ok d) :
    d = principal := by
  unfold stableDebtAt at h
  split at h
  · next hp => cases h; exact hp.symm
  · obtain ⟨g, hg, h⟩ := bind_eq_ok.1 h
    have hg := (compoundedGrowth_eq_ok.1 hg).2
    rw [if_pos rfl] at hg
    refine ext ?_
    rw [toNat_rayMul h, hg, toNat_oneRay]
    exact halfUp_mul_one ray_pos _

/-- and it is shown as such, if it can be rounded at all -/
theorem stableDebtAt_now {principal : UInt256} (h : principal.toNat * ray + ray / 2 < Nat.pow 2 256) (rate : UInt256)
    (now : Nat) : stableDebtAt principal rate now now = .ok principal := by
  unfold stableDebtAt
  split
  · next hp => rw [hp]; rfl
  · have hgrowth : compoundedGrowth rate now now = .ok oneRay := by
      rw [compoundedGrowth_eq_ok, if_pos rfl]
      exact ⟨le_rfl, rfl⟩
    refine bind_eq_ok.2 ⟨oneRay, hgrowth, mulHalfUp_eq_ok.2 ⟨h, ?_⟩⟩
    exact (halfUp_mul_one ray_pos _).symm

/-! ## Refusals -/

variable {S : Fault → Prop}

theorem failsOnly_linearGrowth (ho : S .overflow) {since now : Nat} (hb : ¬ since ≤ now → S .badRequest)
    (rate : UInt256) : FailsOnly S (linearGrowth rate since now) :=
  (failsOnly_require hb).bind fun _ _ => (failsOnly_fit ho _).bind fun _ _ => failsOnly_fit ho _

theorem failsOnly_compoundedTerms (ho : S .overflow) (rate : UInt256) (n : Nat) :
    FailsOnly S (compoundedTerms rate n) := by
  refine (failsOnly_rayMul ho _ _).bind fun _ _ => (failsOnly_rayMul ho _ _).bind fun _ _ => ?_
  refine (failsOnly_fit ho _).bind fun _ _ => (failsOnly_fit ho _).bind fun _ _ => ?_
  exact (failsOnly_fit ho _).bind fun _ _ => failsOnly_fit ho _

theorem failsOnly_compoundedGrowth (ho : S .overflow) {since now : Nat} (hb : ¬ since ≤ now → S .badRequest)
    (rate : UInt256) : FailsOnly S (compoundedGrowth rate since now) := by
  refine (failsOnly_require hb).bind fun _ _ => ?_
  exact failsOnly_ite (fun _ => failsOnly_pure _) fun _ => failsOnly_compoundedTerms ho rate _

theorem failsOnly_supplyIndexAt (ho : S .overflow) {since now : Nat} (hb : ¬ since ≤ now → S .badRequest)
    (rate index : UInt256) : FailsOnly S (supplyIndexAt rate index since now) := by
  refine (failsOnly_require hb).bind fun _ _ => ?_
  refine failsOnly_ite (fun _ => failsOnly_pure _) fun _ => ?_
  exact (failsOnly_linearGrowth ho hb _).bind fun _ _ => failsOnly_rayMul ho _ _

theorem failsOnly_debtIndexAt (ho : S .overflow) {since now : Nat} (hb : ¬ since ≤ now → S .badRequest)
    (rate index : UInt256) : FailsOnly S (debtIndexAt rate index since now) := by
  refine (failsOnly_require hb).bind fun _ _ => ?_
  refine failsOnly_ite (fun _ => failsOnly_pure _) fun _ => ?_
  exact (failsOnly_compoundedGrowth ho hb _).bind fun _ _ => failsOnly_rayMul ho _ _

theorem failsOnly_stableDebtAt (ho : S .overflow) {since now : Nat} (hb : ¬ since ≤ now → S .badRequest)
    (principal rate : UInt256) : FailsOnly S (stableDebtAt principal rate since now) :=
  failsOnly_ite (fun _ => failsOnly_pure _) fun _ =>
    (failsOnly_compoundedGrowth ho hb _).bind fun _ _ => failsOnly_rayMul ho _ _

end Lending
