/-
A lump sum is handed out in full and no more.

The suppliers' part of a fee raises the liquidity index by a rounded ratio of a total that is rounded itself, and the
treasury's part is scaled by the index that results. So five roundings stand between the cash that comes in and the
claims that are credited for it. The total before is off by one unit, which bends the ratio as well; the ratio and the
new index are each off by a half, carried by all that is supplied; the treasury's scaled part is off by a half, worth
half the new index; and the total afterwards is off by one unit. Nothing else is used of the fee or of the market, so
the bound holds for the tiniest supply, where the bent ratio is what dominates.

Results:
- `distributed_error`, `credited_error`: what suppliers and treasury are owed more, against what was paid for them;
- `lump_sum_error`: the whole growth of the claims, against the whole fee;
- `Reserve.distribute_exact`, `Reserve.creditTreasury_exact`: the two updates as roundings;
- `Reserve.distribute_error`, `Reserve.creditTreasury_error`: the same as errors;
- `Reserve.collect_credits`: a collected fee is credited up to that error;
- `lump_sums_credited`: so are flash loan premiums and backing fees, and the cash grows by them exactly.
-/
import Mathlib.Tactic.FieldSimp
import Lending.Proofs.Solvency
import Lending.Proofs.StatedAmounts
import Lending.Proofs.WeightedAverage

namespace Lending

open UInt256

/-! ## The errors -/

section Errors

variable {R scaled index supply ratio newIndex newScaled newSupply paid credited : ℚ}

/-- `paid` raises the worth of what is supplied by itself: off by one unit of the total before, which bends the ratio as
well, by half a unit of the ratio on the whole total, and by half a unit of the index on all that is scaled -/
theorem distributed_error (hR : 0 < R) (hsupply : 0 < supply) (hscaled : 0 ≤ scaled) (hpaid : 0 ≤ paid)
    (htotal : |scaled * index / R - supply| ≤ 1) (hratio : |ratio - paid * R / supply| ≤ 1 / 2)
    (hindex : |newIndex - (ratio + R) * index / R| ≤ 1 / 2) :
    |scaled * newIndex / R - (supply + paid)| ≤ 1 + paid / supply + (supply + 1 + scaled) / (2 * R) := by
  set total := scaled * index / R - supply with htotalDef
  set ratioOff := ratio - paid * R / supply with hratioDef
  set indexOff := newIndex - (ratio + R) * index / R with hindexDef
  -- one summand for each rounding; the total stands under the ratio too, so its error comes in twice
  have hsplit : scaled * newIndex / R - (supply + paid) =
      total * (1 + paid / supply) + (supply + total) * (ratioOff / R) + scaled * (indexOff / R) := by
    rw [htotalDef, hratioDef, hindexDef]
    field_simp
    ring
  have hbent : |total * (1 + paid / supply)| ≤ 1 + paid / supply := by
    have hnonneg : 0 ≤ 1 + paid / supply := by positivity
    rw [abs_mul, abs_of_nonneg hnonneg]
    exact mul_le_of_le_one_left hnonneg htotal
  have hspread : |(supply + total) * (ratioOff / R)| ≤ (supply + 1) * (1 / 2 / R) := by
    have hwhole : |supply + total| ≤ supply + 1 := by
      have := abs_add_le supply total
      rw [abs_of_pos hsupply] at this
      linarith
    rw [abs_mul, abs_div, abs_of_pos hR]
    gcongr
  have hcarried : |scaled * (indexOff / R)| ≤ scaled * (1 / 2 / R) := by
    rw [abs_mul, abs_div, abs_of_pos hR, abs_of_nonneg hscaled]
    gcongr
  calc |scaled * newIndex / R - (supply + paid)|
      ≤ |total * (1 + paid / supply)| + |(supply + total) * (ratioOff / R)| + |scaled * (indexOff / R)| := by
        rw [hsplit]
        exact abs_add_three _ _ _
    _ ≤ (1 + paid / supply) + (supply + 1) * (1 / 2 / R) + scaled * (1 / 2 / R) := by gcongr
    _ = 1 + paid / supply + (supply + 1 + scaled) / (2 * R) := by
        field_simp
        ring

/-- half a scaled unit is worth half the index -/
theorem credited_error (hR : 0 < R) (hindex : 0 < newIndex) (h : |newScaled - paid * R / newIndex| ≤ 1 / 2) :
    |newScaled * newIndex / R - paid| ≤ newIndex / (2 * R) := by
  have hsplit : newScaled * newIndex / R - paid = (newScaled - paid * R / newIndex) * (newIndex / R) := by
    field_simp
  calc |newScaled * newIndex / R - paid| = |newScaled - paid * R / newIndex| * (newIndex / R) := by
        rw [hsplit, abs_mul, abs_of_pos (div_pos hindex hR)]
    _ ≤ 1 / 2 * (newIndex / R) := by gcongr
    _ = newIndex / (2 * R) := by ring

/-- the errors of both parts and of the total afterwards, cleared of their denominators -/
theorem lump_sum_error (hR : 1 ≤ R) (hsupply : 0 < supply)
    (hdistributed : |scaled * newIndex / R - (supply + paid)| ≤ 1 + paid / supply + (supply + 1 + scaled) / (2 * R))
    (hcredited : |newScaled * newIndex / R - credited| ≤ newIndex / (2 * R))
    (htotal : |newSupply - (scaled + newScaled) * newIndex / R| ≤ 1) (hscaled : 0 ≤ scaled) (hindex : 0 ≤ newIndex) :
    supply * R * |newSupply - supply - (paid + credited)| ≤
      paid * R + supply * (supply + scaled + newIndex + 3 * R) := by
  have hpos : 0 < R := by linarith
  -- the halves leave room for the units of the total before and after
  have hslack : 2 * R + (supply + 1 + scaled + newIndex) / 2 ≤ supply + scaled + newIndex + 3 * R := by linarith
  have hsplit : newSupply - supply - (paid + credited) =
      (newSupply - (scaled + newScaled) * newIndex / R) + (scaled * newIndex / R - (supply + paid)) +
        (newScaled * newIndex / R - credited) := by
    ring
  have hsum : |newSupply - supply - (paid + credited)| ≤
      1 + (1 + paid / supply + (supply + 1 + scaled) / (2 * R)) + newIndex / (2 * R) := by
    rw [hsplit]
    exact (abs_add_three _ _ _).trans (by gcongr)
  calc supply * R * |newSupply - supply - (paid + credited)|
      ≤ supply * R * (1 + (1 + paid / supply + (supply + 1 + scaled) / (2 * R)) + newIndex / (2 * R)) := by gcongr
    _ = paid * R + supply * (2 * R + (supply + 1 + scaled + newIndex) / 2) := by
        field_simp
        ring
    _ ≤ paid * R + supply * (supply + scaled + newIndex + 3 * R) :=
        add_le_add_right (mul_le_mul_of_nonneg_left hslack hsupply.le) _

end Errors

/-! ## The updates -/

namespace Reserve

variable {r s : Reserve} {amount supply : UInt256} {fee : SplitFee}

/-- what the market owes is its whole scaled supply at the index, off by half a unit for each of the two parts -/
theorem abs_totalSupply_sub (h : r.totalSupply = .ok supply) :
    |((r.scaledSupply.toNat + r.treasuryScaled.toNat) * r.liquidityIndex.toNat / ray - supply.toNat : ℚ)| ≤ 1 := by
  obtain ⟨users, treasury, hu, ht, hsum⟩ := totalSupply_eq_ok.1 h
  have husersLe := rayMul_upper hu
  have husersGe := rayMul_lower hu
  have htreasuryLe := rayMul_upper ht
  have htreasuryGe := rayMul_lower ht
  have hcast : (supply.toNat : ℚ) = users.toNat + treasury.toNat := by exact_mod_cast hsum
  rw [hcast, add_mul, add_div, abs_le]
  constructor <;> linarith

/-- the ratio by which an amount that is distributed raises the index, and the index -/
theorem distribute_exact (h : r.distribute amount = .ok s) :
    (amount = 0 ∧ s = r) ∨ ∃ supply index : UInt256, r.totalSupply = .ok supply ∧
      s = { r with liquidityIndex := index } ∧
      index.toNat = halfUp ((halfUp (amount.toNat * ray) supply.toNat + ray) * r.liquidityIndex.toNat) ray := by
  unfold distribute at h
  split at h
  · next h0 =>
    cases h
    exact .inl ⟨h0, rfl⟩
  · simp only [bind_eq_ok] at h
    obtain ⟨supply, hsupply, part, hpart, whole, hwhole, ratio, hratio, growth, hgrowth, index, hindex, h⟩ := h
    cases h
    have hpos : 0 < supply.toNat := by
      refine Nat.pos_of_ne_zero fun h0 => (divHalfUp_eq_ok.1 hratio).1 ?_
      rw [toNat_wadToRay hwhole, h0, Nat.zero_mul]
    refine .inr ⟨supply, index, hsupply, rfl, ?_⟩
    rw [toNat_rayMul hindex, add_eq_ok.1 hgrowth, toNat_oneRay, toNat_rayDiv_wadToRay hwhole hratio hpos,
      toNat_wadToRay hpart, Nat.mul_assoc, Nat.mul_comm raysPerWad, ← ray_eq]

/-- the scaled supply that the treasury is credited with -/
theorem creditTreasury_exact (h : r.creditTreasury amount = .ok s) :
    r.liquidityIndex.toNat ≠ 0 ∧ ∃ treasury : UInt256, s = { r with treasuryScaled := treasury } ∧
      treasury.toNat = r.treasuryScaled.toNat + halfUp (amount.toNat * ray) r.liquidityIndex.toNat := by
  simp only [creditTreasury, bind_eq_ok, add_eq_ok] at h
  obtain ⟨scaled, hscaled, treasury, htreasury, h⟩ := h
  cases h
  exact ⟨(divHalfUp_eq_ok.1 hscaled).1, treasury, rfl, by rw [htreasury, toNat_rayDiv hscaled]⟩

/-- both roundings of a distribution as errors; distributing nothing makes none -/
theorem distribute_error (h : r.distribute amount = .ok s) (hsupply : r.totalSupply = .ok supply) (hne : supply ≠ 0) :
    ∃ (ratio : Nat) (index : UInt256), s = { r with liquidityIndex := index } ∧
      |(ratio - amount.toNat * ray / supply.toNat : ℚ)| ≤ 1 / 2 ∧
      |(index.toNat - (ratio + ray) * r.liquidityIndex.toNat / ray : ℚ)| ≤ 1 / 2 := by
  have hray : (0 : ℚ) < ray := Nat.cast_pos.2 ray_pos
  rcases distribute_exact h with ⟨rfl, rfl⟩ | ⟨supply', index, hsupply', rfl, hindex⟩
  · refine ⟨0, s.liquidityIndex, rfl, ?_, ?_⟩
    · simp
    · rw [Nat.cast_zero, zero_add, mul_div_cancel_left₀ _ hray.ne', sub_self, abs_zero]
      positivity
  · obtain rfl : supply' = supply := Except.ok.inj (hsupply'.symm.trans hsupply)
    refine ⟨halfUp (amount.toNat * ray) supply'.toNat, index, rfl, ?_, ?_⟩
    · exact_mod_cast abs_halfUp_sub_div_le (amount.toNat * ray) (toNat_pos hne)
    · rw [hindex]
      exact_mod_cast abs_halfUp_sub_div_le _ ray_pos

/-- the rounding of a credit as an error of what the treasury is owed for it -/
theorem creditTreasury_error (h : r.creditTreasury amount = .ok s) :
    0 < r.liquidityIndex.toNat ∧ ∃ (scaled : Nat) (treasury : UInt256), s = { r with treasuryScaled := treasury } ∧
      treasury.toNat = r.treasuryScaled.toNat + scaled ∧
      |(scaled * r.liquidityIndex.toNat / ray - amount.toNat : ℚ)| ≤ r.liquidityIndex.toNat / (2 * ray) := by
  obtain ⟨hne, treasury, hs, htreasury⟩ := creditTreasury_exact h
  have hpos := Nat.pos_of_ne_zero hne
  have hround := abs_halfUp_sub_div_le (amount.toNat * ray) hpos
  rw [Nat.cast_mul] at hround
  exact ⟨hpos, _, treasury, hs, htreasury, credited_error (Nat.cast_pos.2 ray_pos) (Nat.cast_pos.2 hpos) hround⟩

/-- what `s` owes more than `r` is `fee`, up to the errors of handing it out -/
def Credits (fee : SplitFee) (r s : Reserve) : Prop :=
  ∀ before after, r.totalSupply = .ok before → s.totalSupply = .ok after → before ≠ 0 →
    before.toNat * ray * |(after.toNat - before.toNat - fee.total.toNat : ℤ)| ≤
      fee.toSuppliers.toNat * ray + before.toNat * (before.toNat + r.scaledSupply.toNat + r.treasuryScaled.toNat +
        s.liquidityIndex.toNat + 3 * ray)

/-- a collected fee is credited, whatever its two parts are -/
theorem collect_credits (hfee : fee.toTreasury.toNat + fee.toSuppliers.toNat = fee.total.toNat)
    (h : r.collect fee = .ok s) : r.Credits fee s := by
  intro before after hbefore hafter hne
  obtain ⟨distributed, hd, hc⟩ := bind_eq_ok.1 h
  obtain ⟨ratio, index, rfl, hratio, hindex⟩ := distribute_error hd hbefore hne
  obtain ⟨hpos, scaled, treasury, rfl, htreasury, hcredited⟩ := creditTreasury_error hc
  dsimp only at hpos htreasury hcredited ⊢
  have hray : (1 : ℚ) ≤ ray := by exact_mod_cast ray_pos
  have hsupply : (0 : ℚ) < before.toNat := Nat.cast_pos.2 (toNat_pos hne)
  have hdistributed := distributed_error (by linarith) hsupply (by positivity) (Nat.cast_nonneg _)
    (abs_totalSupply_sub hbefore) hratio hindex
  have htotal := abs_totalSupply_sub hafter
  dsimp only at htotal
  rw [htreasury, Nat.cast_add, ← add_assoc, abs_sub_comm] at htotal
  have herror := lump_sum_error hray hsupply hdistributed hcredited htotal (by positivity) (Nat.cast_nonneg _)
  have hsum : (fee.toSuppliers.toNat + fee.toTreasury.toNat : ℚ) = fee.total.toNat := by
    rw [← hfee, Nat.cast_add, add_comm]
  rw [hsum, ← add_assoc] at herror
  exact_mod_cast herror

/-- `s` is `r` after `fee` was paid into it, and `backing` for supply that was unbacked until then -/
structure Receives (fee : SplitFee) (backing : UInt256) (r s : Reserve) : Prop where
  available : s.available.toNat = r.available.toNat + backing.toNat + fee.total.toNat
  unbacked : s.unbacked.toNat + backing.toNat = r.unbacked.toNat
  /-- the backing takes the place of what it backs, and the fee is all that comes in on top -/
  assets : s.available.toNat + s.unbacked.toNat = r.available.toNat + r.unbacked.toNat + fee.total.toNat
  credits : r.Credits fee s

variable {collected : Reserve} {curve : RateCurve} {added backing unbacked : UInt256}

/-- the rates are all that a refresh changes of what suppliers look at -/
theorem receives_of_collect (hfee : fee.toTreasury.toNat + fee.toSuppliers.toNat = fee.total.toNat)
    (hc : r.collect fee = .ok collected) (hadded : added.toNat = backing.toNat + fee.total.toNat)
    (hbacked : unbacked.toNat + backing.toNat = r.unbacked.toNat)
    (hr : refresh curve added 0 { collected with unbacked } = .ok s) : r.Receives fee backing s := by
  have hcredits := collect_credits hfee hc
  obtain ⟨_, _, rfl, _⟩ := collect_spec hc
  obtain ⟨available, _, _, _, rfl, havailable, _⟩ := refresh_spec hr
  rw [toNat_zero, hadded] at havailable
  dsimp only at havailable
  refine ⟨?_, hbacked, ?_, hcredits⟩ <;> dsimp only <;> omega

end Reserve

/-! ## The actions -/

namespace Account

variable {pool : PoolConfig} {config : ReserveConfig} {now : Nat} {a b : Account} {amount fee : UInt256}

theorem flashLoan_receives (h : a.flashLoan pool config.curve amount = .ok b) :
    ∃ premium, flashLoanPremium amount pool.flashPremium pool.flashPremiumToTreasury = .ok premium ∧
      a.reserve.Receives premium 0 b.reserve := by
  obtain ⟨_, premium, collected, hpremium, hc, hr, _⟩ := flashLoan_spec h
  obtain ⟨total, _, hsplit⟩ := bind_eq_ok.1 hpremium
  obtain ⟨_, _, hcollected, _⟩ := Reserve.collect_spec hc
  have hunbacked : collected.unbacked.toNat + (0 : UInt256).toNat = a.reserve.unbacked.toNat := by
    rw [hcollected]
    rfl
  exact ⟨premium, hpremium, Reserve.receives_of_collect (SplitFee.toTreasury_add_toSuppliers hsplit) hc
    (by rw [toNat_zero, Nat.zero_add]) hunbacked hr⟩

theorem backUnbacked_receives (h : a.backUnbacked pool config.curve amount fee = .ok b) :
    ∃ split, SplitFee.of fee pool.backingFeeToTreasury = .ok split ∧ split.total = fee ∧
      a.reserve.Receives split (min amount a.reserve.unbacked) b.reserve := by
  obtain ⟨added, hadded, _, split, collected, hsplit, hc, unbacked, hunbacked, hr, _⟩ := backUnbacked_spec h
  have htotal := SplitFee.total_eq hsplit
  obtain ⟨_, _, hcollected, _⟩ := Reserve.collect_spec hc
  refine ⟨split, hsplit, htotal, Reserve.receives_of_collect (SplitFee.toTreasury_add_toSuppliers hsplit) hc ?_ ?_ hr⟩
  · rw [htotal]
    exact add_eq_ok.1 hadded
  · rw [hunbacked, hcollected]

/-- an action finds a market that is accrued but holds what it held, and settling the position leaves it alone -/
theorem perform_market {action : AccountAction} (h : a.perform pool config now action = .ok b) :
    ∃ accrued changed, a.reserve.accrue now = .ok accrued.reserve ∧
      accrued.reserve.available = a.reserve.available ∧ accrued.reserve.unbacked = a.reserve.unbacked ∧
      action.change pool config now accrued = .ok changed ∧ b.reserve = changed.reserve := by
  obtain ⟨_, accrued, changed, ha, hc, hs⟩ := perform_eq_ok h
  obtain ⟨r, p, hr, _, rfl⟩ := accrue_eq_ok ha
  obtain ⟨_, _, rfl⟩ := settle_eq_ok hs
  obtain ⟨_, _, _, _, _, _, rfl, _⟩ := Reserve.accrue_eq_ok hr
  exact ⟨⟨_, p⟩, changed, hr, rfl, rfl, hc, rfl⟩

end Account

/-- **A lump sum is credited to suppliers and treasury up to rounding, and it is in the market to the last unit.** The
premium on a flash loan comes in alone; a backing fee comes in with the backing, which unbacked supply falls by. -/
theorem lump_sums_credited :
    (∀ pool config now amount (a b : Account), a.perform pool config now (.flashLoan amount) = .ok b →
      ∃ accrued premium, a.reserve.accrue now = .ok accrued ∧ accrued.available = a.reserve.available ∧
        accrued.unbacked = a.reserve.unbacked ∧
        flashLoanPremium amount pool.flashPremium pool.flashPremiumToTreasury = .ok premium ∧
        accrued.Receives premium 0 b.reserve) ∧
    ∀ pool config now amount fee (a b : Account), a.perform pool config now (.backUnbacked amount fee) = .ok b →
      ∃ accrued split, a.reserve.accrue now = .ok accrued ∧ accrued.available = a.reserve.available ∧
        accrued.unbacked = a.reserve.unbacked ∧ SplitFee.of fee pool.backingFeeToTreasury = .ok split ∧
        split.total = fee ∧ accrued.Receives split (min amount accrued.unbacked) b.reserve := by
  constructor
  · intro pool config now amount a b h
    obtain ⟨accrued, changed, hr, havailable, hunbacked, hc, hb⟩ := Account.perform_market h
    obtain ⟨premium, hpremium, hreceives⟩ := Account.flashLoan_receives hc
    exact ⟨accrued.reserve, premium, hr, havailable, hunbacked, hpremium, hb ▸ hreceives⟩
  · intro pool config now amount fee a b h
    obtain ⟨accrued, changed, hr, havailable, hunbacked, hc, hb⟩ := Account.perform_market h
    obtain ⟨split, hsplit, htotal, hreceives⟩ := Account.backUnbacked_receives hc
    exact ⟨accrued.reserve, split, hr, havailable, hunbacked, hsplit, htotal, hb ▸ hreceives⟩

/-- the aged account in a market of which 50 tokens of supply are not backed yet -/
def Sample.bridgedAccount : Account :=
  { agedAccount with reserve := { agedAccount.reserve with unbacked := tokens 50, totalLiquidity := tokens 1050 } }

/-- an hour later, the premium on a flash loan of 100 tokens, and a fee of one token with the backing of 20 -/
theorem lump_sums_credited_sample :
    (∃ b, Sample.agedAccount.perform Sample.poolConfig Sample.reserveConfig 3600 (.flashLoan (Sample.tokens 100)) =
        .ok b ∧
      ∃ accrued, Sample.agedAccount.reserve.accrue 3600 = .ok accrued ∧
        (∃ before, accrued.totalSupply = .ok before ∧ before ≠ 0 ∧
          ∃ after, b.reserve.totalSupply = .ok after ∧ before < after) ∧
        ∃ premium, accrued.Receives premium 0 b.reserve) ∧
    ∃ b, Sample.bridgedAccount.perform Sample.poolConfig Sample.reserveConfig 3600
        (.backUnbacked (Sample.tokens 20) (Sample.tokens 1)) = .ok b ∧
      ∃ accrued, Sample.bridgedAccount.reserve.accrue 3600 = .ok accrued ∧
        (∃ before, accrued.totalSupply = .ok before ∧ before ≠ 0 ∧
          ∃ after, b.reserve.totalSupply = .ok after ∧ before < after) ∧
        ∃ split, split.total = Sample.tokens 1 ∧
          accrued.Receives split (min (Sample.tokens 20) accrued.unbacked) b.reserve := by
  obtain ⟨hloans, hbackings⟩ := lump_sums_credited
  constructor
  · obtain ⟨b, hb, r, hr, hgrows⟩ :
        ∃ b, Sample.agedAccount.perform Sample.poolConfig Sample.reserveConfig 3600
            (.flashLoan (Sample.tokens 100)) = .ok b ∧
          ∃ accrued, Sample.agedAccount.reserve.accrue 3600 = .ok accrued ∧
            ∃ before, accrued.totalSupply = .ok before ∧ before ≠ 0 ∧
              ∃ after, b.reserve.totalSupply = .ok after ∧ before < after := by
      decide +kernel
    obtain ⟨accrued, premium, haccrued, _, _, _, hreceives⟩ := hloans _ _ _ _ _ b hb
    obtain rfl : accrued = r := Except.ok.inj (haccrued.symm.trans hr)
    exact ⟨b, hb, accrued, hr, hgrows, premium, hreceives⟩
  · obtain ⟨b, hb, r, hr, hgrows⟩ :
        ∃ b, Sample.bridgedAccount.perform Sample.poolConfig Sample.reserveConfig 3600
            (.backUnbacked (Sample.tokens 20) (Sample.tokens 1)) = .ok b ∧
          ∃ accrued, Sample.bridgedAccount.reserve.accrue 3600 = .ok accrued ∧
            ∃ before, accrued.totalSupply = .ok before ∧ before ≠ 0 ∧
              ∃ after, b.reserve.totalSupply = .ok after ∧ before < after := by
      decide +kernel
    obtain ⟨accrued, split, haccrued, _, _, _, htotal, hreceives⟩ := hbackings _ _ _ _ _ _ b hb
    obtain rfl : accrued = r := Except.ok.inj (haccrued.symm.trans hr)
    exact ⟨b, hb, accrued, hr, hgrows, split, htotal, hreceives⟩

end Lending
