/-
Everything that an accrual computes.

`Advances now r s` says of every field of `s` what it is worth, in terms of `r` and of the fields computed before it.
`advance_iff` reads it off a reserve that was brought forward, and conversely brings a reserve forward from its values,
which is how an accrual is shown to go through.
-/
import Lending.Proofs.Reserve

namespace Lending.Reserve

open UInt256

/-- while the debts grow to those of `s`, the treasury earns `share` of the interest on them -/
def Earns (r s : Reserve) (share : UInt256) : Prop :=
  ∃ variableBefore, r.scaledVariableDebt.rayMul r.debtIndex = .ok variableBefore ∧
    ∃ stableBefore, r.stableDebtNow r.lastUpdate = .ok stableBefore ∧
      ∃ owed, s.totalVariableDebt.add s.totalStableDebt = .ok owed ∧
        ∃ owedBefore, variableBefore.add stableBefore = .ok owedBefore ∧
          ∃ interest, owed.sub owedBefore = .ok interest ∧ interest.percentMul r.listing.reserveFactor = .ok share

/-- `s` is `r` at `now`, a time after its last update -/
structure Advances (now : Nat) (r s : Reserve) : Prop where
  liquidityIndex : supplyIndexAt r.rates.liquidityRate r.liquidityIndex r.lastUpdate now = .ok s.liquidityIndex
  debtIndex : r.debtIndexNow now = .ok s.debtIndex
  variableDebt : r.scaledVariableDebt.rayMul s.debtIndex = .ok s.totalVariableDebt
  stableDebt : r.stableDebtNow now = .ok s.totalStableDebt
  treasury : ∃ share, r.Earns s share ∧ r.creditAt share s.liquidityIndex = .ok s.treasuryScaled
  same : s = { r with
    liquidityIndex := s.liquidityIndex, debtIndex := s.debtIndex, totalVariableDebt := s.totalVariableDebt
    totalStableDebt := s.totalStableDebt, treasuryScaled := s.treasuryScaled, lastUpdate := now }

variable {r s : Reserve} {now : Nat}

theorem advance_iff : r.advance now = .ok s ↔ Advances now r s := by
  simp only [advance, bind_eq_ok]
  constructor
  · rintro ⟨li, hli, di, hdi, vb, hvb, tv, htv, sb, hsb, ts, hts, owed, howed, before, hbefore, interest, hinterest,
      share, hshare, tr, htr, h⟩
    cases h
    exact ⟨hli, hdi, htv, hts, ⟨share, ⟨vb, hvb, sb, hsb, owed, howed, before, hbefore, interest, hinterest, hshare⟩,
      htr⟩, rfl⟩
  · rintro ⟨hli, hdi, htv, hts, ⟨share, ⟨vb, hvb, sb, hsb, owed, howed, before, hbefore, interest, hinterest, hshare⟩,
      htr⟩, hs⟩
    exact ⟨_, hli, _, hdi, vb, hvb, _, htv, sb, hsb, _, hts, owed, howed, before, hbefore, interest, hinterest, share,
      hshare, _, htr, congrArg Except.ok hs.symm⟩

/-- a reserve that is accrued stands where it was, or is brought forward -/
theorem accrue_cases (h : r.accrue now = .ok s) :
    (r.lastUpdate = now ∧ s = r) ∨ (r.lastUpdate < now ∧ Advances now r s) := by
  simp only [accrue, bind_eq_ok, require_eq_ok] at h
  obtain ⟨_, hle, h⟩ := h
  split at h
  · next he =>
    cases h
    exact .inl ⟨he.symm, rfl⟩
  · next hne => exact .inr ⟨Nat.lt_of_le_of_ne hle (Ne.symm hne), advance_iff.1 h⟩

theorem Advances.accrue (h : Advances now r s) (hlt : r.lastUpdate < now) : r.accrue now = .ok s := by
  refine bind_eq_ok.2 ⟨(), require_eq_ok.2 hlt.le, ?_⟩
  rw [if_neg hlt.ne']
  exact advance_iff.2 h

end Lending.Reserve
